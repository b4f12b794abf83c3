import TemplateDebug.Decimal.Shortest
import TemplateDebug.Json.Basic
/-!
# JSON text

The compact text of a value: no blanks, members in the order they are held. Characters outside ASCII are written as
they are; quotes, backslashes and control characters are escaped.
-/

namespace TemplateDebug.Json

/-- Four lower-case hexadecimal digits. -/
def hex4 (n : Nat) : String :=
  String.ofList ([4096, 256, 16, 1].map fun p => Nat.digitChar (n / p % 16))

def escapeChar (c : Char) : String :=
  if c = '"' then "\\\""
  else if c = '\\' then "\\\\"
  else if c = '\n' then "\\n"
  else if c = '\r' then "\\r"
  else if c = '\t' then "\\t"
  else if c = Char.ofNat 8 then "\\b"
  else if c = Char.ofNat 12 then "\\f"
  else if c.toNat < 0x20 then "\\u" ++ hex4 c.toNat
  else c.toString

def renderString (s : String) : String := "\"" ++ String.join (s.toList.map escapeChar) ++ "\""

mutual
def render : Json → String
  | null => "null"
  | bool b => if b then "true" else "false"
  | int n => toString n
  | real x => DecimalStyle.json.writeDouble x
  | str s => renderString s
  | arr items => "[" ++ String.intercalate "," (renderItems items) ++ "]"
  | obj members => "\x7b" ++ String.intercalate "," (renderMembers members) ++ "\x7d"

def renderItems : List Json → List String
  | [] => []
  | j :: js => render j :: renderItems js

def renderMembers : List (String × Json) → List String
  | [] => []
  | (k, j) :: ms => (renderString k ++ ":" ++ render j) :: renderMembers ms
end

end TemplateDebug.Json
