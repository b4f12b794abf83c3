import TemplateDebug.Json.Printer
import TemplateDebug.Log.Event
import TemplateDebug.Text.Quoted
/-!
# Log lines

An event as a line of text, or as a line that holds an object.
-/

namespace TemplateDebug.Log

def Level.name : Level → String
  | error => "ERROR"
  | warn => "WARN"
  | info => "INFO"
  | debug => "DEBUG"
  | trace => "TRACE"

namespace FieldValue

/-- The value in a line of text. -/
def inLine : FieldValue → String
  | number n => toString n
  | flag b => toString b
  | text s => Text.quote s
  | shown s => s

/-- The value in an object. -/
def toJson : FieldValue → Json
  | number n => .int n
  | flag b => .bool b
  | text s => .str s
  | shown s => .str s

end FieldValue

namespace Event

/-- The text with blanks in front that fill five columns. -/
def fiveColumns (s : String) : String := String.ofList (List.replicate (5 - s.length) ' ') ++ s

/-- The time, the level, the target and the message, and then the values. -/
def line (timestamp : String) (e : Event) : String :=
  let fields := e.fields.map fun f => " " ++ f.1 ++ "=" ++ f.2.inLine
  timestamp ++ " " ++ fiveColumns e.level.name ++ " " ++ e.target ++ ": " ++ e.message ++ String.join fields

/-- The message and the values. -/
def fieldObject (e : Event) : Json :=
  Json.ofMembers (("message", .str e.message) :: e.fields.map fun f => (f.1, f.2.toJson))

def object (timestamp : String) (e : Event) : Json :=
  Json.ofMembers [("timestamp", .str timestamp), ("level", .str e.level.name), ("target", .str e.target),
    ("fields", e.fieldObject)]

end Event

end TemplateDebug.Log
