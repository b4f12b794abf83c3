import TemplateDebug.Dap.Message
import TemplateDebug.Marker.Mapping
import TemplateDebug.Session.Caches
import TemplateDebug.Session.Fault
/-!
# Breakpoints

A request that sets breakpoints in a template is redirected to the compiled source, line by line, and stays pending
until its response arrives. The breakpoints of that response are mapped back to the template.
-/

namespace TemplateDebug.Session

/-- A redirected request that waits for its response. -/
structure Pending where
  requestSeq : Int
  template : Path
  compiled : Path
  /-- The spellings under which markers may name the template. -/
  refs : List String
  deriving DecidableEq, Repr

/-! ## Requests -/

/-- The template in the workspace that arguments name as their source. -/
def templateOf? (c : Caches) (arguments : Json) : Option Path :=
  ((Dap.sourcePath? arguments).filter Source.isTemplate).bind fun text =>
    if c.inWorkspace ⟨text⟩ then some ⟨text⟩ else none

/-- A requested breakpoint on its line of the compiled source, if its line can be mapped. -/
def redirectBreakpoint? (target? : Nat → Option Nat) (breakpoint : Json) : Option Json :=
  ((Dap.lineOf? breakpoint "line").bind target?).map fun line => Dap.setLine line breakpoint

/-- A requested line as a line of the compiled source, if it can be mapped. -/
def redirectLine? (target? : Nat → Option Nat) (line : Json) : Option Json :=
  ((Dap.word? line).bind target?).map fun line => .int line

/-- The object with each item of its list under `key` replaced as far as `change?` gives something, and how many it
does. -/
def changeItems (key : String) (change? : Json → Option Json) (j : Json) : Json × Nat :=
  match (j.get? key).bind Json.items? with
  | some items => (j.set key (.arr (items.map fun i => (change? i).getD i)), items.countP fun i => (change? i).isSome)
  | none => (j, 0)

/-- The arguments on the compiled source, and how many lines were mapped. Breakpoints are listed as objects, and by
older clients also as bare lines. -/
def redirectArguments (markers : Array Marker) (refs : List String) (compiled : Path) (arguments : Json) :
    Json × Nat :=
  let target? := Marker.breakpointLine? markers refs
  let (arguments, breakpoints) := changeItems "breakpoints" (redirectBreakpoint? target?) arguments
  let (arguments, lines) := changeItems "lines" (redirectLine? target?) arguments
  (Dap.setSource compiled arguments, breakpoints + lines)

variable {m : Type → Type} [Monad m]

/-- The compiled source of a template and its markers. -/
def compiledSource (host : Host m) (template : Path) (refs : List String) (c : Caches) :
    m (Option (Path × Array Marker) × Caches) := do
  let (found, c) ← c.locate host template refs
  match found with
  | none =>
    host.log (Log.Notice.notCompiled template)
    pure (none, c)
  | some compiled =>
    let (markers, c) ← c.readFresh host compiled
    pure (markers.map (compiled, ·), c)

/-- A request for a template, redirected to its compiled source; none if no line of it can be mapped. -/
def redirect (host : Host m) (requestSeq : Int) (arguments request : Json) (c : Caches) :
    m (Option (Json × Pending) × Caches) :=
  match templateOf? c arguments with
  | none => pure (none, c)
  | some template => do
    let refs := Template.plausibleRefs template c.resolver.webRoots
    let (source, c) ← compiledSource host template refs c
    match source with
    | none => pure (none, c)
    | some (compiled, markers) =>
      let (arguments, moved) := redirectArguments markers refs compiled arguments
      if moved = 0 then pure (none, c)
      else do
        if c.verbose then host.log (Log.Notice.redirected requestSeq template compiled moved)
        pure (some (request.set "arguments" arguments, ⟨requestSeq, template, compiled, refs⟩), c)

/-- The sequence number and the arguments of a request. -/
def requestParts (request : Json) : Except Fault (Int × Json) :=
  match (request.get? "seq").bind Json.int64? with
  | none => .error (.missing "seq")
  | some requestSeq => match request.get? "arguments" with
    | none => .error (.missing "arguments")
    | some arguments => .ok (requestSeq, arguments)

/-! ## Responses -/

/-- The compiled source of a breakpoint in a response: the one it reports, or else the one the request went to. -/
def reportedSource (pending : Pending) (breakpoint : Json) : Path :=
  (((Dap.sourcePath? breakpoint).filter Source.isCompiled).map Path.mk).getD pending.compiled

/-- The template a marker's reference stands for: the file it leads to, or else the template of the request, if the
reference is a spelling of that. -/
def templateFor (host : Host m) (pending : Pending) (ref : String) (c : Caches) : m (Option Path × Caches) := do
  let (found, c) ← c.resolve host ref
  match found with
  | some p => pure (some p, c)
  | none => pure (if Template.anyMatches pending.refs (some ref) then some pending.template else none, c)

/-- A breakpoint of a response mapped back to the template, if it can be. -/
def mapBack (host : Host m) (pending : Pending) (breakpoint : Json) (c : Caches) : m (Option Json × Caches) :=
  match Dap.lineOf? breakpoint "line" with
  | none => pure (none, c)
  | some line => do
    let (markers, c) ← c.readCached host (reportedSource pending breakpoint)
    match markers.bind (Marker.locationOf? · line) with
    | some ⟨templateLine, some ref⟩ =>
      let (template, c) ← templateFor host pending ref c
      pure (template.map fun t => Dap.setSource t (Dap.setLine templateLine breakpoint), c)
    | _ => pure (none, c)

/-- The breakpoints of a response mapped back as far as they can be, and how many could. -/
def mapAllBack (host : Host m) (pending : Pending) : List Json → Caches → m (List Json × Nat × Caches)
  | [], c => pure ([], 0, c)
  | b :: bs, c => do
    let (mapped, c) ← mapBack host pending b c
    let (bs, count, c) ← mapAllBack host pending bs c
    pure (mapped.getD b :: bs, count + mapped.toList.length, c)

/-- The successful response to a pending request, with its breakpoints mapped back. -/
def answer (host : Host m) (pending : Pending) (response : Json) (c : Caches) : m (Except Fault Json × Caches) :=
  match bodyItems "breakpoints" response with
  | .error e => pure (.error e, c)
  | .ok breakpoints => do
    let (breakpoints, mapped, c) ← mapAllBack host pending breakpoints c
    if c.verbose then host.log (Log.Notice.mappedBack pending.requestSeq pending.template mapped)
    pure (.ok (setBodyItems "breakpoints" breakpoints response), c)

end TemplateDebug.Session
