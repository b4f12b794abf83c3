import TemplateDebug.Decimal.Power
/-!
# Binary64

A floating-point number is held by its bits, so two of them are equal when their bits are. All arithmetic is exact
arithmetic on naturals followed by one rounding to nearest, a half going to the even neighbour.
-/

namespace TemplateDebug

/-- A binary64 number, by its bits. -/
structure Double where
  bits : UInt64
  deriving DecidableEq, Repr

namespace Double

def isNegative (x : Double) : Bool := x.bits.toNat ≥ twoTo 63

/-- The bits without the sign. -/
def magnitude (x : Double) : Nat := x.bits.toNat % twoTo 63

/-- The magnitude of infinity. -/
def infinite : Nat := 0x7FF * twoTo 52

def isNaN (x : Double) : Bool := infinite < x.magnitude

def isInfinite (x : Double) : Bool := x.magnitude == infinite

def isFinite (x : Double) : Bool := x.magnitude < infinite

def ofMagnitude (negative : Bool) (m : Nat) : Double :=
  ⟨UInt64.ofNat (if negative then m + twoTo 63 else m)⟩

def infinity (negative : Bool) : Double := ofMagnitude negative infinite

def nan : Double := ⟨0x7FF8000000000000⟩

def neg (x : Double) : Double := ofMagnitude (!x.isNegative) x.magnitude

/-- A finite number is `significand · 2 ^ exponent`. -/
structure Scaled where
  significand : Nat
  exponent : Int

/-- A finite number without its sign. -/
def scaled (x : Double) : Scaled :=
  let field := x.magnitude / twoTo 52
  let fraction := x.magnitude % twoTo 52
  if field = 0 then ⟨fraction, -1074⟩ else ⟨fraction + twoTo 52, Int.ofNat field - 1075⟩

/-- The quotient rounded to nearest, a half to the even neighbour. -/
def roundedQuotient (num den : Nat) : Nat :=
  let q := num / den
  let r := num % den
  if 2 * r < den then q else if den < 2 * r then q + 1 else q + q % 2

/-- `num / den` scaled by `2 ^ (-e)`, as a fraction. -/
def scaleDown (num den : Nat) (e : Int) : Nat × Nat :=
  if 0 ≤ e then (num, den * twoTo e.toNat) else (num * twoTo (-e).toNat, den)

/-- The exponent at which `num / den` has a significand of 53 bits, or the least exponent. -/
def exponentFor (num den : Nat) : Int :=
  let e : Int := max ((num.log2 : Int) - (den.log2 : Int) - 52) (-1074)
  let f := scaleDown num den e
  if f.1 / f.2 < twoTo 52 ∧ -1074 < e then e - 1 else e

/-- The magnitude nearest to `num / den`; past the largest finite number it is infinite. -/
def nearestMagnitude (num den : Nat) : Nat :=
  if num = 0 then 0
  else
    let e := exponentFor num den
    let f := scaleDown num den e
    min infinite ((e + 1074).toNat * twoTo 52 + roundedQuotient f.1 f.2)

/-- The number nearest to `num / den`. -/
def ofRatio (negative : Bool) (num den : Nat) : Double := ofMagnitude negative (nearestMagnitude num den)

/-- The number nearest to `digits · 10 ^ exponent`; far outside the range of finite numbers it is zero or infinity at
once. -/
def ofDecimal (negative : Bool) (digits : Nat) (exponent : Int) : Double :=
  let lead := exponent + (Nat.toDigits 10 digits).length
  if digits = 0 ∨ lead < -400 then ofMagnitude negative 0
  else if 400 < lead then infinity negative
  else if 0 ≤ exponent then ofRatio negative (digits * tenTo exponent.toNat) 1
  else ofRatio negative digits (tenTo (-exponent).toNat)

/-- A finite number without its sign, as a fraction. -/
def ratio (x : Double) : Nat × Nat :=
  let s := x.scaled
  if 0 ≤ s.exponent then (s.significand * twoTo s.exponent.toNat, 1)
  else (s.significand, twoTo (-s.exponent).toNat)

/-- The product of two finite numbers without their signs, under the sign given. -/
def product (negative : Bool) (x y : Double) : Double :=
  ofRatio negative (x.ratio.1 * y.ratio.1) (x.ratio.2 * y.ratio.2)

/-- The quotient of two finite numbers without their signs, under the sign given; the divisor is not zero. -/
def quotient (negative : Bool) (x y : Double) : Double :=
  ofRatio negative (x.ratio.1 * y.ratio.2) (x.ratio.2 * y.ratio.1)

end Double

end TemplateDebug
