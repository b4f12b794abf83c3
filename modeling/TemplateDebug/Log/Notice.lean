import TemplateDebug.Disk.Host
import TemplateDebug.Text.Quoted
/-!
# Notices

The events that the program logs, each with its level, its part of the program and its wording.
-/

namespace TemplateDebug.Log.Notice

open Level FieldValue

/-! ## Compiled sources -/

def cachePart : String := "jspdbg.cache"

def locatorPart : String := "jspdbg.locator"

def unreadable (p : Path) (e : FileError) : Event :=
  ⟨trace, cachePart, "compiled source is not readable", [("path", shown p.text), ("error", shown e.message)]⟩

def readFailed (p : Path) (e : FileError) : Event :=
  ⟨debug, cachePart, "failed to read compiled source", [("path", shown p.text), ("error", shown e.message)]⟩

def parsed (p : Path) (markers : Nat) : Event :=
  ⟨trace, cachePart, "parsed compiled source", [("path", shown p.text), ("markers", number markers)]⟩

def budgetExhausted (maxScanFiles : Nat) : Event :=
  ⟨debug, locatorPart, "scan budget exhausted before a compiled source was found",
    [("max_scan_files", number maxScanFiles)]⟩

def located (p : Path) (scanned : Nat) : Event :=
  ⟨debug, locatorPart, "located compiled source", [("compiled", shown p.text), ("scanned", number scanned)]⟩

/-! ## Messages -/

def sessionPart : String := "jspdbg.dap"

/-- A path that may be missing, as diagnostics show it. -/
def shownPath : Option Path → FieldValue
  | some p => shown ("Some(" ++ Text.quote p.text ++ ")")
  | none => shown "None"

def resolved (ref : String) (found : Option Path) : Event :=
  ⟨trace, sessionPart, "resolved template reference", [("template_ref", text ref), ("resolved", shownPath found)]⟩

def notCompiled (template : Path) : Event :=
  ⟨debug, sessionPart, "no compiled source found for template", [("template", shown template.text)]⟩

def redirected (requestSeq : Int) (template compiled : Path) (moved : Nat) : Event :=
  ⟨info, sessionPart, "redirected breakpoints to compiled source",
    [("request_seq", number requestSeq), ("template", shown template.text), ("compiled", shown compiled.text),
      ("translated", number moved)]⟩

def mappedBack (requestSeq : Int) (template : Path) (mapped : Nat) : Event :=
  ⟨info, sessionPart, "mapped breakpoints back to template",
    [("request_seq", number requestSeq), ("template", shown template.text), ("rewritten", number mapped)]⟩

def mappedFrame (compiled : String) (compiledLine : Nat) (template : Path) (templateLine : Nat) : Event :=
  ⟨info, sessionPart, "mapped stack frame",
    [("compiled", text compiled), ("compiled_line", number compiledLine), ("template", shown template.text),
      ("template_line", number templateLine)]⟩

/-- A message goes on as it came; a verbose session warns of it. -/
def skipping (verbose : Bool) (what error : String) : Event :=
  ⟨if verbose then warn else debug, sessionPart, "skipping " ++ what, [("error", shown error)]⟩

/-! ## The relay -/

def streamClosed (side : String) : Event := ⟨debug, sessionPart, "stream closed", [("side", text side)]⟩

def readMessageFailed (side error : String) : Event :=
  ⟨warn, sessionPart, "failed to read message", [("side", text side), ("error", shown error)]⟩

/-! ## Start -/

def starting (roots : List Path) (enabled : Bool) : Event :=
  let texts := roots.map fun p => Text.quote p.text
  ⟨info, sessionPart, "starting JSP debug proxy",
    [("roots", shown ("[" ++ String.intercalate ", " texts ++ "]")), ("enabled", flag enabled)]⟩

def logFileFailed (p : Path) : Event :=
  ⟨warn, "jspdbg.config", "failed to open log file; file logging disabled", [("path", shown p.text)]⟩

end TemplateDebug.Log.Notice
