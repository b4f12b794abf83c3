import TemplateDebug.Json.Basic
/-!
# Numbers in JSON text

A number without fraction and exponent is an integer when it fits 64 bits. Any other becomes a double in two steps:
its digits are gathered into a word of 64 bits, as far as they fit, and the double of that word is multiplied or
divided by a power of ten, each step rounding once. A number past the largest double is refused.
-/

namespace TemplateDebug.Json

/-- A number as written: the digits before the point, those after it, and the exponent with its sign. -/
structure NumberText where
  negative : Bool
  whole : List Nat
  fraction : Option (List Nat)
  exponent : Option (Bool × List Nat)

/-- Appends digits to a word while they fit; the word, and the digits left over. -/
def gather (word : Nat) : List Nat → Nat × List Nat
  | [] => (word, [])
  | d :: ds => if word * 10 + d < wordBound then gather (word * 10 + d) ds else (word, d :: ds)

def powerOfTen (n : Nat) : Double := Double.ofRatio false (tenTo n) 1

/-- A double without sign, scaled by a power of ten in steps of at most `10 ^ 308`. -/
def scale (x : Double) (exponent : Int) : Option Double :=
  if exponent < -308 then
    if x.magnitude = 0 then some x else scale (x.quotient false (powerOfTen 308)) (exponent + 308)
  else if exponent < 0 then some (x.quotient false (powerOfTen (-exponent).toNat))
  else if 308 < exponent then if x.magnitude = 0 then some x else none
  else
    let y := x.product false (powerOfTen exponent.toNat)
    if y.isInfinite then none else some y
termination_by (-exponent).toNat
decreasing_by omega

/-- The double of a word scaled by a power of ten. -/
def scaledWord (negative : Bool) (word : Nat) (exponent : Int) : Option Json :=
  (scale (Double.ofRatio false word 1) exponent).map fun x => real (Double.ofMagnitude negative x.magnitude)

/-- The exponent as written; none past 31 bits. -/
def exponentValue? (digits : List Nat) : Option Nat :=
  digits.foldl (fun e d => e.bind fun e => if e * 10 + d < 2147483648 then some (e * 10 + d) else none) (some 0)

/-- The number as an integer, when it is written as one and fits; a negative zero does not. -/
def NumberText.integer? (t : NumberText) (word : Nat) (left : List Nat) : Option Int :=
  if t.fraction.isSome || t.exponent.isSome || !left.isEmpty then none
  else if !t.negative then some word
  else if 0 < word ∧ fitsSigned (-(word : Int)) then some (-(word : Int))
  else none

/-- The value of a number as written; none if it is too large for a double. -/
def NumberText.value? (t : NumberText) : Option Json :=
  let (word, left) := gather 0 t.whole
  match t.integer? word left with
  | some n => some (int n)
  | none =>
    let fraction := t.fraction.getD []
    let (word, unread) := gather word fraction
    let scale : Int := (left.length : Int) - ((fraction.length : Int) - unread.length)
    match t.exponent with
    | none => scaledWord t.negative word scale
    | some (down, digits) => match exponentValue? digits with
      | some e => scaledWord t.negative word (if down then scale - e else scale + e)
      | none => if word = 0 ∨ down then some (real (Double.ofMagnitude t.negative 0)) else none

end TemplateDebug.Json
