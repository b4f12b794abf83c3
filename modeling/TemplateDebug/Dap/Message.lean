import TemplateDebug.Json.Basic
import TemplateDebug.Marker.Basic
import TemplateDebug.Path.Basic
/-!
# Debug protocol messages

A message is a JSON value. Its header tells requests, responses and events apart; line numbers and source paths are
members of its parts.
-/

namespace TemplateDebug.Dap

/-- What a message is, as far as its header is well formed. -/
inductive Header where
  | request (command : String)
  | response (requestSeq : Int) (command : String) (success : Bool)
  | event
  deriving DecidableEq, Repr

/-- The header of a message; a response without a success flag has failed. -/
def header? (message : Json) : Option Header := do
  match ← (message.get? "type").bind Json.str? with
  | "request" => some (.request (← (message.get? "command").bind Json.str?))
  | "response" =>
    let requestSeq ← (message.get? "request_seq").bind Json.int64?
    let command ← (message.get? "command").bind Json.str?
    some (.response requestSeq command (((message.get? "success").bind Json.bool?).getD false))
  | "event" => some .event
  | _ => none

/-- A number that fits the line numbers, zero included. -/
def word? (j : Json) : Option Nat := j.nat?.filter (· ≤ lastLine)

/-- The line number under `key`. -/
def lineOf? (j : Json) (key : String) : Option Nat := ((j.get? key).bind word?).filter (0 < ·)

/-- The path of the source of a frame, a breakpoint or arguments. -/
def sourcePath? (j : Json) : Option String := ((j.get? "source").bind (·.get? "path")).bind Json.str?

/-- A source object that stands for the file at `p`. A source reference would make the client ask for the text
instead of opening the file, so it goes. -/
def setSourcePath (p : Path) (source : Json) : Json :=
  let named := match p.fileName? with
    | some name => source.set "name" (.str name)
    | none => source
  (named.set "path" (.str p.text)).erase "sourceReference"

/-- The frame, breakpoint or arguments with its source, if it has one, standing for the file at `p`. -/
def setSource (p : Path) (j : Json) : Json :=
  match j.get? "source" with
  | some source => j.set "source" (setSourcePath p source)
  | none => j

/-- The object with its line set. -/
def setLine (line : Nat) (j : Json) : Json := j.set "line" (.int line)

end TemplateDebug.Dap
