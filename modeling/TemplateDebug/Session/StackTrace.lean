import TemplateDebug.Dap.Message
import TemplateDebug.Marker.Mapping
import TemplateDebug.Session.Caches
import TemplateDebug.Session.Fault
/-!
# Stack traces

Frames that lie in compiled sources are shown in their templates. Each compiled source is checked once for a response,
however many frames it has.
-/

namespace TemplateDebug.Session

/-- The compiled sources that a response has shown so far, by the text of their paths. -/
abbrev Checked := List (String × Option (Array Marker))

variable {m : Type → Type} [Monad m]

/-- The markers of a compiled source, checked at its first use. -/
def checkOnce (host : Host m) (source : String) (checked : Checked) (c : Caches) :
    m (Option (Array Marker) × Checked × Caches) :=
  match checked.lookup source with
  | some markers => pure (markers, checked, c)
  | none => do
    let (markers, c) ← c.readFresh host ⟨source⟩
    pure (markers, (source, markers) :: checked, c)

/-- The path of a compiled source and the line in it where a frame lies. -/
def compiledPlace? (frame : Json) : Option (String × Nat) :=
  ((Dap.sourcePath? frame).filter Source.isCompiled).bind fun source =>
    (Dap.lineOf? frame "line").map fun line => (source, line)

/-- A frame shown in its template, if it can be. -/
def showFrame (host : Host m) (frame : Json) (checked : Checked) (c : Caches) :
    m (Option Json × Checked × Caches) :=
  match compiledPlace? frame with
  | none => pure (none, checked, c)
  | some (source, line) => do
    let (markers, checked, c) ← checkOnce host source checked c
    match markers.bind (Marker.locationOf? · line) with
    | some ⟨templateLine, some ref⟩ =>
      let (template, c) ← c.resolve host ref
      match template with
      | none => pure (none, checked, c)
      | some template =>
        if c.verbose then host.log (Log.Notice.mappedFrame source line template templateLine)
        pure (some (Dap.setLine templateLine (Dap.setSource template frame)), checked, c)
    | _ => pure (none, checked, c)

/-- The frames of a response, shown in their templates as far as they can be. -/
def showFrames (host : Host m) : List Json → Checked → Caches → m (List Json × Caches)
  | [], _, c => pure ([], c)
  | f :: fs, checked, c => do
    let (shown, checked, c) ← showFrame host f checked c
    let (fs, c) ← showFrames host fs checked c
    pure (shown.getD f :: fs, c)

/-- A successful response with its frames shown in templates. -/
def showTrace (host : Host m) (response : Json) (c : Caches) : m (Except Fault Json × Caches) :=
  match bodyItems "stackFrames" response with
  | .error e => pure (.error e, c)
  | .ok frames => do
    let (frames, c) ← showFrames host frames [] c
    pure (.ok (setBodyItems "stackFrames" frames response), c)

end TemplateDebug.Session
