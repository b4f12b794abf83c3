import TemplateDebug.Json.Number
import TemplateDebug.Text.Utf8
/-!
# Reading JSON text

A strict reader: one value, blanks around it, and nothing else. It refuses unpaired surrogate escapes, control
characters in strings, numbers too large for a double, and containers nested deeper than a limit. What is read is
consumed from the front of a list of characters; `fuel` counts the steps and never runs out on a text no longer than it.
-/

namespace TemplateDebug.Json

def isSpace (c : Char) : Bool := c = ' ' || c = '\t' || c = '\n' || c = '\r'

def dropSpaces (s : List Char) : List Char := s.dropWhile isSpace

/-! ## Strings -/

/-- The text after a literal. -/
def dropLiteral? : List Char → List Char → Option (List Char)
  | [], s => some s
  | w :: ws, c :: s => if w = c then dropLiteral? ws s else none
  | _ :: _, [] => none

def hexValue? (c : Char) : Option Nat :=
  if c.isDigit then some (c.toNat - '0'.toNat)
  else if 'a' ≤ c ∧ c ≤ 'f' then some (c.toNat - 'a'.toNat + 10)
  else if 'A' ≤ c ∧ c ≤ 'F' then some (c.toNat - 'A'.toNat + 10)
  else none

/-- The number of four hexadecimal digits at the front. -/
def hex4? (s : List Char) : Option Nat :=
  if (s.take 4).length < 4 then none
  else (s.take 4).foldl (fun n c => n.bind fun n => (hexValue? c).map fun d => n * 16 + d) (some 0)

def simpleEscape? : Char → Option Char
  | '"' => some '"'
  | '\\' => some '\\'
  | '/' => some '/'
  | 'b' => some (Char.ofNat 8)
  | 'f' => some (Char.ofNat 12)
  | 'n' => some '\n'
  | 'r' => some '\r'
  | 't' => some '\t'
  | _ => none

/-- The character of a unicode escape, whose digits are at the front, and how many characters it takes: one code
unit, or two that make a pair. -/
def readUnicode (s : List Char) : Option (Char × Nat) :=
  match hex4? s with
  | none => none
  | some unit =>
    if 0xDC00 ≤ unit ∧ unit ≤ 0xDFFF then none
    else if 0xD800 ≤ unit ∧ unit ≤ 0xDBFF then
      match dropLiteral? "\\u".toList (s.drop 4) with
      | none => none
      | some rest => match hex4? rest with
        | none => none
        | some low =>
          if 0xDC00 ≤ low ∧ low ≤ 0xDFFF then
            some (Char.ofNat (0x10000 + (unit - 0xD800) * 0x400 + (low - 0xDC00)), 10)
          else none
    else some (Char.ofNat unit, 4)

/-- The characters of a string up to its closing quote, and the rest; `done` holds those read, in reverse. -/
def readChars (done : List Char) : List Char → Option (String × List Char)
  | [] => none
  | '"' :: rest => some (String.ofList done.reverse, rest)
  | '\\' :: 'u' :: rest => match readUnicode rest with
    | some (c, taken) => readChars (c :: done) (rest.drop taken)
    | none => none
  | '\\' :: e :: rest => match simpleEscape? e with
    | some c => readChars (c :: done) rest
    | none => none
  | c :: rest => if c.toNat < 0x20 ∨ c = '\\' then none else readChars (c :: done) rest
termination_by s => s.length
decreasing_by all_goals simp only [List.length_cons, List.length_drop]; omega

/-! ## Numbers -/

/-- The digits at the front, and the rest. -/
def readDigits (s : List Char) : List Nat × List Char :=
  ((s.takeWhile Char.isDigit).map fun c => c.toNat - '0'.toNat, s.dropWhile Char.isDigit)

def readFraction : List Char → Option (Option (List Nat) × List Char)
  | '.' :: s =>
    let (ds, rest) := readDigits s
    if ds.isEmpty then none else some (some ds, rest)
  | s => some (none, s)

def readExponentDigits (down : Bool) (s : List Char) : Option (Option (Bool × List Nat) × List Char) :=
  let (ds, rest) := readDigits s
  if ds.isEmpty then none else some (some (down, ds), rest)

def readExponent : List Char → Option (Option (Bool × List Nat) × List Char)
  | c :: s =>
    if c = 'e' ∨ c = 'E' then
      match s with
      | '+' :: s => readExponentDigits false s
      | '-' :: s => readExponentDigits true s
      | s => readExponentDigits false s
    else some (none, c :: s)
  | [] => some (none, [])

/-- A number after its sign; a zero is the only digit before the point, or none of several. -/
def readNumber (negative : Bool) (s : List Char) : Option (Json × List Char) := do
  let (whole, rest) := readDigits s
  if whole.isEmpty ∨ (whole.head? = some 0 ∧ 1 < whole.length) then none
  else
    let (fraction, rest) ← readFraction rest
    let (exponent, rest) ← readExponent rest
    let value ← NumberText.value? { negative, whole, fraction, exponent }
    some (value, rest)

/-! ## Values -/

mutual
/-- The value at the front, in which containers nest at most `depth` deep. -/
def readValue (fuel depth : Nat) (s : List Char) : Option (Json × List Char) :=
  match fuel with
  | 0 => none
  | fuel + 1 => match dropSpaces s with
    | 'n' :: s => (dropLiteral? "ull".toList s).map fun rest => (null, rest)
    | 't' :: s => (dropLiteral? "rue".toList s).map fun rest => (bool true, rest)
    | 'f' :: s => (dropLiteral? "alse".toList s).map fun rest => (bool false, rest)
    | '"' :: s => (readChars [] s).map fun r => (str r.1, r.2)
    | '-' :: s => readNumber true s
    | '[' :: s => match depth with
      | 0 => none
      | depth + 1 => match dropSpaces s with
        | ']' :: rest => some (arr [], rest)
        | s => readItems fuel depth [] s
    | '{' :: s => match depth with
      | 0 => none
      | depth + 1 => match dropSpaces s with
        | '}' :: rest => some (obj [], rest)
        | s => readMembers fuel depth [] s
    | s => readNumber false s

/-- The items of an array from the next one on; `done` holds those read, in reverse. -/
def readItems (fuel depth : Nat) (done : List Json) (s : List Char) : Option (Json × List Char) :=
  match fuel with
  | 0 => none
  | fuel + 1 => match readValue fuel depth s with
    | none => none
    | some (j, rest) => match dropSpaces rest with
      | ',' :: rest => readItems fuel depth (j :: done) rest
      | ']' :: rest => some (arr (j :: done).reverse, rest)
      | _ => none

/-- The members of an object from the next one on; `done` holds those read, in reverse. -/
def readMembers (fuel depth : Nat) (done : List (String × Json)) (s : List Char) : Option (Json × List Char) :=
  match fuel with
  | 0 => none
  | fuel + 1 => match dropSpaces s with
    | '"' :: s => match readChars [] s with
      | none => none
      | some (key, rest) => match dropSpaces rest with
        | ':' :: rest => match readValue fuel depth rest with
          | none => none
          | some (j, rest) => match dropSpaces rest with
            | ',' :: rest => readMembers fuel depth ((key, j) :: done) rest
            | '}' :: rest => some (ofMembers ((key, j) :: done).reverse, rest)
            | _ => none
        | _ => none
    | _ => none
end

/-- Containers nest at most so deep in a message. -/
def depthLimit : Nat := 127

/-- The value a text holds, with containers nested at most `depth` deep. -/
def parseWithin (depth : Nat) (text : String) : Option Json :=
  let s := text.toList
  match readValue (2 * s.length + 2) depth s with
  | some (j, rest) => if (dropSpaces rest).isEmpty then some j else none
  | none => none

/-- The value a text holds. -/
def parse? (text : String) : Option Json := parseWithin depthLimit text

/-- The value bytes hold, which are UTF-8. -/
def parseBytes? (bytes : Bytes) : Option Json := (Utf8.decode? bytes).bind parse?

end TemplateDebug.Json
