import TemplateDebug.Toml.Basic
import TemplateDebug.Text.Split
/-!
# Bare values in TOML

Numbers, flags, dates and times are words without blanks, apart from the blank that may stand between a date and a
time. Integers fit a signed word of 64 bits. A number with a fraction or an exponent becomes the nearest double, and
none above the greatest finite one.
-/

namespace TemplateDebug.Toml

/-! ## Numbers -/

/-- The digits of a run in which single underscores may stand between digits. -/
def digitRun? (isDigit : Char → Bool) (s : List Char) : Option (List Char) :=
  let parts := Text.splitParts (· = '_') s
  if parts.all fun p => !p.isEmpty && p.all isDigit then some parts.flatten else none

def valueOf (base : Nat) (digits : List Char) : Nat :=
  digits.foldl (fun n c =>
    n * base + (if c.isDigit then c.toNat - '0'.toNat else c.toLower.toNat - 'a'.toNat + 10)) 0

/-- A decimal run without a zero in front. -/
def decimalRun? : List Char → Option (List Char)
  | ['0'] => some ['0']
  | '0' :: _ => none
  | s => digitRun? Char.isDigit s

/-- The word without its sign, and whether that is a minus. -/
def splitSign : List Char → Bool × List Char
  | '-' :: s => (true, s)
  | '+' :: s => (false, s)
  | s => (false, s)

/-- An integer that fits 64 bits. -/
def fitting? (n : Int) : Option Toml :=
  if fitsSigned n then some (.integer n) else none

def isHexDigit (c : Char) : Bool := c.isDigit || ('a' ≤ c && c ≤ 'f') || ('A' ≤ c && c ≤ 'F')

def isOctalDigit (c : Char) : Bool := '0' ≤ c && c ≤ '7'

def isBinaryDigit (c : Char) : Bool := c = '0' || c = '1'

def integer? : List Char → Option Toml
  | '0' :: 'x' :: s => (digitRun? isHexDigit s).bind fun ds => fitting? (valueOf 16 ds)
  | '0' :: 'o' :: s => (digitRun? isOctalDigit s).bind fun ds => fitting? (valueOf 8 ds)
  | '0' :: 'b' :: s => (digitRun? isBinaryDigit s).bind fun ds => fitting? (valueOf 2 ds)
  | s =>
    let (negative, s) := splitSign s
    (decimalRun? s).bind fun ds =>
      let n : Int := valueOf 10 ds
      fitting? (if negative then -n else n)

/-- The exponent after its letter; a word without that letter has the exponent zero. -/
def exponent? : List Char → Option Int
  | [] => some 0
  | _ :: s =>
    let (negative, s) := splitSign s
    (digitRun? Char.isDigit s).map fun ds => if negative then -(valueOf 10 ds : Int) else valueOf 10 ds

def isExponentMark (c : Char) : Bool := c = 'e' || c = 'E'

/-- The digits after the point; none if there is no point. -/
def fraction? : List Char → Option (List Char)
  | [] => some []
  | '.' :: s => digitRun? Char.isDigit s
  | _ => none

/-- A number with a fraction, an exponent or both. -/
def real? (s : List Char) : Option Toml := do
  guard (s.any fun c => c = '.' || isExponentMark c)
  let (negative, s) := splitSign s
  let mantissa := s.takeWhile (!isExponentMark ·)
  let whole ← decimalRun? (mantissa.takeWhile (· ≠ '.'))
  let fraction ← fraction? (mantissa.dropWhile (· ≠ '.'))
  let exponent ← exponent? (s.dropWhile (!isExponentMark ·))
  let x := Double.ofDecimal negative (valueOf 10 (whole ++ fraction)) (exponent - fraction.length)
  if x = Double.infinity false then none else some (.real x)

/-- Infinity, or not a number, with or without a sign. -/
def special? (s : List Char) : Option Toml :=
  let (negative, s) := splitSign s
  if s = "inf".toList then some (.real (Double.infinity negative))
  else if s = "nan".toList then some (.real (if negative then Double.nan.neg else Double.nan))
  else none

/-! ## Dates and times -/

/-- The number of two digits, if it lies within bounds. -/
def twoDigits? (low high : Nat) (a b : Char) : Option Nat :=
  if a.isDigit && b.isDigit then
    let n := valueOf 10 [a, b]
    if low ≤ n ∧ n ≤ high then some n else none
  else none

def isLeapYear (year : Nat) : Bool := year % 4 == 0 && (year % 100 != 0 || year % 400 == 0)

def daysIn (year month : Nat) : Nat :=
  if month = 2 then (if isLeapYear year then 29 else 28)
  else if month = 4 ∨ month = 6 ∨ month = 9 ∨ month = 11 then 30
  else 31

def isDate : List Char → Bool
  | [a, b, c, d, '-', e, f, '-', g, h] =>
    [a, b, c, d].all Char.isDigit &&
      match twoDigits? 1 12 e f with
      | some month => (twoDigits? 1 (daysIn (valueOf 10 [a, b, c, d]) month) g h).isSome
      | none => false
  | _ => false

/-- The word after a time at its front: hours, minutes, seconds with the leap second, and a fraction. -/
def afterTime? : List Char → Option (List Char)
  | a :: b :: ':' :: c :: d :: ':' :: e :: f :: s =>
    if (twoDigits? 0 23 a b).isSome && (twoDigits? 0 59 c d).isSome && (twoDigits? 0 60 e f).isSome then
      match s with
      | '.' :: g :: s => if g.isDigit then some (s.dropWhile Char.isDigit) else none
      | s => some s
    else none
  | _ => none

def isTime (s : List Char) : Bool := afterTime? s = some []

/-- The offset from universal time; it may be missing. -/
def isOffset : List Char → Bool
  | [] => true
  | [z] => z = 'Z' || z = 'z'
  | [sign, a, b, ':', c, d] =>
    (sign = '+' || sign = '-') && (twoDigits? 0 23 a b).isSome && (twoDigits? 0 59 c d).isSome
  | _ => false

/-- A time with its offset. -/
def isZonedTime (s : List Char) : Bool := (afterTime? s).any isOffset

/-- A date, a time, or both with a letter between them. -/
def isDateTime (s : List Char) : Bool :=
  isDate s || isTime s ||
    (isDate (s.take 10) && match s.drop 10 with
      | c :: rest => (c = 'T' || c = 't') && isZonedTime rest
      | [] => false)

/-! ## Words -/

/-- A character that ends a bare value. -/
def endsWord (c : Char) : Bool := [' ', '\t', '\n', '\r', '#', ',', ']', '\x7d'].contains c

def word? (s : List Char) : Option Toml :=
  if s = "true".toList then some (.flag true)
  else if s = "false".toList then some (.flag false)
  else if isDateTime s then some (.dateTime (String.ofList s))
  else (special? s).or ((integer? s).or (real? s))

/-- A bare value at the front, and the rest. A date and a blank with a digit after it go on with a time. -/
def readBare? (s : List Char) : Option (Toml × List Char) :=
  let first := s.takeWhile (!endsWord ·)
  let rest := s.dropWhile (!endsWord ·)
  match rest with
  | ' ' :: c :: after =>
    if isDate first && c.isDigit then
      let second := (c :: after).takeWhile (!endsWord ·)
      if isZonedTime second then
        some (.dateTime (String.ofList (first ++ ' ' :: second)), (c :: after).dropWhile (!endsWord ·))
      else none
    else (word? first).map (·, rest)
  | rest => (word? first).map (·, rest)

end TemplateDebug.Toml
