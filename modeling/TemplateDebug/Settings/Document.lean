import TemplateDebug.Decimal.Shortest
import TemplateDebug.Json.Basic
import TemplateDebug.Text.Quoted
/-!
# Settings documents

The values that settings are read from, whatever text they were written in, and what can be wrong with them.
-/

namespace TemplateDebug

/-- A value of a settings document. A real number keeps the text that shows it; the members of a table keep their
order. -/
inductive Document where
  | null
  | flag (value : Bool)
  | integer (value : Int)
  | real (shown : String)
  | text (value : String)
  | list (items : List Document)
  | table (members : List (String × Document))
  deriving Repr, Inhabited

namespace Document

mutual
def ofJson : Json → Document
  | .null => null
  | .bool b => flag b
  | .int n => integer n
  | .real x => real (DecimalStyle.json.writeDouble x)
  | .str s => text s
  | .arr items => list (ofJsonItems items)
  | .obj members => table (ofJsonMembers members)

def ofJsonItems : List Json → List Document
  | [] => []
  | j :: js => ofJson j :: ofJsonItems js

def ofJsonMembers : List (String × Json) → List (String × Document)
  | [] => []
  | (k, j) :: ms => (k, ofJson j) :: ofJsonMembers ms
end

/-- How a value that does not fit is named. -/
def describe : Document → String
  | null => "null"
  | flag b => "boolean `" ++ toString b ++ "`"
  | integer n => "integer `" ++ toString n ++ "`"
  | real shown => "floating point `" ++ shown ++ "`"
  | text s => "string " ++ Text.quote s
  | list _ => "sequence"
  | table _ => "map"

end Document

/-- The kind of value a setting takes. -/
inductive Expected where
  | flag
  | text
  | path
  | list
  | count
  | millis
  | section (title : String)
  deriving DecidableEq, Repr

def Expected.describe : Expected → String
  | flag => "a boolean"
  | text => "a string"
  | path => "path string"
  | list => "a sequence"
  | count => "usize"
  | millis => "u64"
  | .section title => "struct " ++ title

/-- Why a document is no settings. -/
inductive Misfit where
  | wrongKind (got : Document) (expected : Expected)
  | outOfRange (got : Int) (expected : Expected)
  | unknownField (key : String) (known : List String)
  | duplicateField (name : String)
  | tooManyItems (length : Nat)
  deriving Repr

namespace Misfit

def inTicks (s : String) : String := "`" ++ s ++ "`"

/-- The keys that would be known: two are alternatives, more are a list. -/
def alternatives : List String → String
  | [a] => inTicks a
  | [a, b] => inTicks a ++ " or " ++ inTicks b
  | keys => "one of " ++ String.intercalate ", " (keys.map inTicks)

def message : Misfit → String
  | wrongKind got expected => "invalid type: " ++ got.describe ++ ", expected " ++ expected.describe
  | outOfRange n expected => "invalid value: " ++ (Document.integer n).describe ++ ", expected " ++ expected.describe
  | unknownField key known => "unknown field " ++ inTicks key ++ ", expected " ++ alternatives known
  | duplicateField name => "duplicate field " ++ inTicks name
  | tooManyItems n => "invalid length " ++ toString n ++ ", expected fewer elements in array"

end Misfit

end TemplateDebug
