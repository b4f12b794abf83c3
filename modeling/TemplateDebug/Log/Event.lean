/-!
# Log events

An event has a level, the part of the program it comes from, a message and named values.
-/

namespace TemplateDebug.Log

inductive Level where
  | error
  | warn
  | info
  | debug
  | trace
  deriving DecidableEq, Repr

/-- How much a level lets through: each level admits those of a lower rank. -/
def Level.rank : Level → Nat
  | error => 1
  | warn => 2
  | info => 3
  | debug => 4
  | trace => 5

/-- A value of an event: a number or a flag, a text that text logs put in quotes, or a text shown as it is. -/
inductive FieldValue where
  | number (n : Int)
  | flag (b : Bool)
  | text (s : String)
  | shown (s : String)
  deriving DecidableEq, Repr

structure Event where
  level : Level
  target : String
  message : String
  fields : List (String × FieldValue)
  deriving DecidableEq, Repr

end TemplateDebug.Log
