import TemplateDebug.Decimal.Power
/-!
# Words in decimal

A natural number of 64 bits as text: digits, with an optional plus sign. The first character that goes wrong decides
the error.
-/

namespace TemplateDebug.Text

inductive WordError where
  | empty
  | invalidDigit
  | tooLarge
  deriving DecidableEq, Repr

def WordError.message : WordError → String
  | empty => "cannot parse integer from empty string"
  | invalidDigit => "invalid digit found in string"
  | tooLarge => "number too large to fit in target type"

/-- The word that digits spell, after those read so far. -/
def wordFrom (read : Nat) : List Char → Except WordError Nat
  | [] => .ok read
  | c :: s =>
    if c.isDigit then
      let n := read * 10 + (c.toNat - '0'.toNat)
      if n < wordBound then wordFrom n s else .error .tooLarge
    else .error .invalidDigit

def word : List Char → Except WordError Nat
  | [] => .error .empty
  | ['+'] => .error .invalidDigit
  | '+' :: s => wordFrom 0 s
  | s => wordFrom 0 s

end TemplateDebug.Text
