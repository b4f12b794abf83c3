import TemplateDebug.Proofs.Disk.Answers
import TemplateDebug.Relay.Basic
/-!
# A session without caches

The same routing and rewriting with nothing remembered about the disk: markers are parsed whenever they are read, web
roots are searched whenever a reference is met, and work directories are walked whenever a compiled source is located.
Only the pending requests last from one message to the next. Whatever a session with caches does is told by comparing
it with this one.
-/

namespace TemplateDebug

/-- Where a session looks: its directories, and how many files a walk visits. -/
structure Site where
  webRoots : List Path
  workDirs : List Path
  maxScanFiles : Nat
  workspaceRoots : List Path
  deriving DecidableEq, Repr

namespace Site

open Session

def ofSettings (s : DebugSettings) (env : Environment) (roots : List Path) : Site :=
  ⟨s.effectiveWebRoots roots, s.effectiveWorkDirs env roots, s.maxScanFiles, roots⟩

/-- The spellings under which markers may name a template. -/
def refsOf (site : Site) (template : Path) : List String := Template.plausibleRefs template site.webRoots

/-- The template in the workspace that arguments name as their source. -/
def templateOf? (site : Site) (arguments : Json) : Option Path :=
  ((Dap.sourcePath? arguments).filter Source.isTemplate).bind fun text =>
    if site.workspaceRoots.any (Path.mk text).startsWith then some ⟨text⟩ else none

/-- The compiled source of a template. -/
def compiled? (site : Site) (disk : Disk) (template : Path) : Option Path :=
  disk.locate site.workDirs site.maxScanFiles (site.refsOf template)

/-- A request for a template, on its compiled source; none if no line of it can be mapped. -/
def redirect (site : Site) (disk : Disk) (requestSeq : Int) (arguments request : Json) : Option (Json × Pending) :=
  (site.templateOf? arguments).bind fun template =>
    (site.compiled? disk template).bind fun compiled =>
      (disk.markers compiled).bind fun markers =>
        let refs := site.refsOf template
        let redirected := redirectArguments markers refs compiled arguments
        if redirected.2 = 0 then none
        else some (request.set "arguments" redirected.1, ⟨requestSeq, template, compiled, refs⟩)

/-- What a redirected request is. -/
theorem redirect_eq_some {site : Site} {disk : Disk} {requestSeq : Int} {arguments request : Json}
    {r : Json × Pending} (h : site.redirect disk requestSeq arguments request = some r) :
    ∃ template compiled markers, site.templateOf? arguments = some template ∧
      site.compiled? disk template = some compiled ∧ disk.markers compiled = some markers ∧
      r = (request.set "arguments" (redirectArguments markers (site.refsOf template) compiled arguments).1,
        ⟨requestSeq, template, compiled, site.refsOf template⟩) := by
  unfold redirect at h
  simp only [Option.bind_eq_some_iff] at h
  obtain ⟨template, ht, compiled, hc, markers, hm, h⟩ := h
  split at h
  · cases h
  · cases h
    exact ⟨template, compiled, markers, ht, hc, hm, rfl⟩

/-- The template that a reference stands for in the response to a pending request. -/
def templateFor (site : Site) (disk : Disk) (pending : Pending) (ref : String) : Option Path :=
  (disk.search site.webRoots ref).or
    (if Template.anyMatches pending.refs (some ref) then some pending.template else none)

/-- The template line, and the reference, of a line of a compiled source. -/
def placeOf? (disk : Disk) (compiled : Path) (line : Nat) : Option (Nat × String) :=
  (disk.markers compiled).bind fun markers =>
    (Marker.locationOf? markers line).bind fun place => place.templateRef.map fun ref => (place.line, ref)

/-- A breakpoint of a response on its template, if it can be mapped. -/
def mapBack (site : Site) (disk : Disk) (pending : Pending) (breakpoint : Json) : Option Json :=
  (Dap.lineOf? breakpoint "line").bind fun line =>
    (placeOf? disk (reportedSource pending breakpoint) line).bind fun place =>
      (site.templateFor disk pending place.2).map fun template =>
        Dap.setSource template (Dap.setLine place.1 breakpoint)

/-- A frame on its template, if it can be mapped. -/
def showFrame (site : Site) (disk : Disk) (frame : Json) : Option Json :=
  (compiledPlace? frame).bind fun compiled =>
    (placeOf? disk ⟨compiled.1⟩ compiled.2).bind fun place =>
      (disk.search site.webRoots place.2).map fun template =>
        Dap.setLine place.1 (Dap.setSource template frame)

/-- The response with each item of the list under `key` changed that can be. -/
def changeItems (key : String) (change? : Json → Option Json) (response : Json) : Json :=
  match bodyItems key response with
  | .ok items => setBodyItems key (items.map fun i => (change? i).getD i) response
  | .error _ => response

end Site

/-- A session that asks the disk whenever it needs to know. -/
structure Direct where
  enabled : Bool
  site : Site
  pending : List Session.Pending
  deriving DecidableEq, Repr

namespace Direct

open Session Relay

def new (settings : DebugSettings) (env : Environment) (roots : List Path) : Direct :=
  ⟨settings.enabled, .ofSettings settings env roots, []⟩

def updateSettings (d : Direct) (settings : DebugSettings) (env : Environment) : Direct :=
  { d with enabled := settings.enabled, site := .ofSettings settings env d.site.workspaceRoots }

/-- A request that sets breakpoints. -/
def redirectRequest (disk : Disk) (message : Json) (d : Direct) : Json × Direct :=
  match requestParts message with
  | .error _ => (message, d)
  | .ok (requestSeq, arguments) => match d.site.redirect disk requestSeq arguments message with
    | none => (message, d)
    | some (redirected, p) => (redirected, { d with pending := p :: without d.pending requestSeq })

/-- A response that reports breakpoints. -/
def answerRequest (disk : Disk) (requestSeq : Int) (success : Bool) (message : Json) (d : Direct) : Json × Direct :=
  match d.pending.find? fun p => p.requestSeq = requestSeq with
  | none => (message, d)
  | some p =>
    (if success then Site.changeItems "breakpoints" (d.site.mapBack disk p) message else message,
      { d with pending := without d.pending requestSeq })

def follow (disk : Disk) (message : Json) (d : Direct) : Route → Json × Direct
  | .redirect => d.redirectRequest disk message
  | .mapBack requestSeq success => d.answerRequest disk requestSeq success message
  | .showTrace => (Site.changeItems "stackFrames" (d.site.showFrame disk) message, d)
  | .pass => (message, d)

def route (side : Side) (message : Json) : Route :=
  match side with
  | .client => clientRoute message
  | .adapter => adapterRoute message

/-- A message from a side, as the other side gets it. -/
def pass (disk : Disk) (side : Side) (message : Json) (d : Direct) : Json × Direct :=
  if d.enabled then d.follow disk message (route side message) else (message, d)

end Direct

end TemplateDebug
