import TemplateDebug.Decimal.Double
/-!
# Shortest decimals

The decimal of a floating-point number is the one with the fewest digits that rounds back to it; of two such, the
nearer one. A finite number owns the reals that round to it: those closer than half a step, and the two ends when its
significand is even.
-/

namespace TemplateDebug

/-- The decimal `digits · 10 ^ exponent`. -/
structure Decimal where
  digits : Nat
  exponent : Int
  deriving DecidableEq, Repr

namespace Decimal

/-- A positive rational. -/
structure Ratio where
  num : Nat
  den : Nat

def Ratio.lt (a b : Ratio) : Bool := a.num * b.den < b.num * a.den

def Ratio.le (a b : Ratio) : Bool := a.num * b.den ≤ b.num * a.den

/-- `n · 10 ^ e`. -/
def power10 (n : Nat) (e : Int) : Ratio :=
  if 0 ≤ e then ⟨n * tenTo e.toNat, 1⟩ else ⟨n, tenTo (-e).toNat⟩

def Ratio.ofScaled (n : Nat) (e : Int) : Ratio :=
  if 0 ≤ e then ⟨n * twoTo e.toNat, 1⟩ else ⟨n, twoTo (-e).toNat⟩

/-- The reals that round to a number: its ends in quarter steps, and whether they belong to it. -/
structure Interval where
  low : Ratio
  value : Ratio
  high : Ratio
  closed : Bool

/-- Below a power of two the next number is half a step away, so the lower end is a quarter step away. -/
def Interval.of (x : Double) : Interval :=
  let s := x.scaled
  let quarter := s.exponent - 2
  let below := if s.significand = twoTo 52 ∧ -1074 < s.exponent then 1 else 2
  { low := .ofScaled (4 * s.significand - below) quarter
    value := .ofScaled (4 * s.significand) quarter
    high := .ofScaled (4 * s.significand + 2) quarter
    closed := s.significand % 2 = 0 }

def Interval.contains (i : Interval) (r : Ratio) : Bool :=
  if i.closed then i.low.le r && r.le i.high else i.low.lt r && r.lt i.high

/-- The exponent of the leading decimal digit: the greatest `p` with `10 ^ p ≤ r`. -/
def leadingExponent (r : Ratio) : Int :=
  let guess : Int := ((r.num.log2 : Int) - (r.den.log2 : Int)) * 30103 / 100000
  ([guess + 2, guess + 1, guess, guess - 1].find? fun p => (power10 1 p).le r).getD (guess - 2)

/-- The decimal in the interval with the exponent given, the nearer one of two; ties go to even digits. -/
def atExponent? (i : Interval) (e : Int) : Option Decimal :=
  let unit := power10 1 e
  let below := i.value.num * unit.den / (i.value.den * unit.num)
  let above := below + 1
  let hit (n : Nat) : Bool := 0 < n && i.contains (power10 n e)
  match hit below, hit above with
  | false, false => none
  | true, false => some ⟨below, e⟩
  | false, true => some ⟨above, e⟩
  | true, true =>
    let twice : Ratio := ⟨2 * i.value.num, i.value.den⟩
    let middle := power10 (below + above) e
    if twice.lt middle then some ⟨below, e⟩
    else if middle.lt twice then some ⟨above, e⟩
    else some ⟨if below % 2 = 0 then below else above, e⟩

/-- The decimal without zeros at its end. -/
def stripped (digits : Nat) (exponent : Int) : Nat → Decimal
  | 0 => ⟨digits, exponent⟩
  | fuel + 1 => if digits % 10 = 0 ∧ digits ≠ 0 then stripped (digits / 10) (exponent + 1) fuel else ⟨digits, exponent⟩

/-- The shortest decimal of a finite number without its sign: one to seventeen digits. -/
def shortest (x : Double) : Decimal :=
  if x.magnitude = 0 then ⟨0, 0⟩
  else
    let i := Interval.of x
    let lead := leadingExponent i.value
    match (List.range 17).findSome? fun n => atExponent? i (lead - Int.ofNat n) with
    | some d => stripped d.digits d.exponent 20
    | none => ⟨0, 0⟩

end Decimal

/-- How a decimal is written: the exponents of the leading digit that are written by position, what a whole number
ends in, and whether an exponent shows its plus sign. -/
structure DecimalStyle where
  leastPositional : Int
  mostPositional : Int
  plusSign : Bool

namespace DecimalStyle

/-- JSON texts write by position from `0.00001` up to sixteen digits before the point. -/
def json : DecimalStyle := ⟨-5, 15, true⟩

/-- Diagnostics of a document always write by position. -/
def plain : DecimalStyle := ⟨-400, 400, true⟩

def zeros (n : Nat) : String := String.ofList (List.replicate n '0')

/-- The digits with the point where the exponent puts it; a whole number ends in `.0`. -/
def positional (digits : String) (exponent : Int) : String :=
  let n : Int := digits.length
  if 0 ≤ exponent then digits ++ zeros exponent.toNat ++ ".0"
  else if 0 < n + exponent then
    let whole := (n + exponent).toNat
    String.ofList (digits.toList.take whole) ++ "." ++ String.ofList (digits.toList.drop whole)
  else "0." ++ zeros (-(n + exponent)).toNat ++ digits

/-- One digit, the point and the others if there are any, and the exponent. -/
def scientific (s : DecimalStyle) (digits : String) (lead : Int) : String :=
  let mantissa := match digits.toList with
    | d :: e :: rest => String.ofList (d :: '.' :: e :: rest)
    | _ => digits
  let sign := if lead < 0 then "-" else if s.plusSign then "+" else ""
  mantissa ++ "e" ++ sign ++ toString lead.natAbs

def write (s : DecimalStyle) (d : Decimal) : String :=
  let digits := toString d.digits
  let lead : Int := (digits.length : Int) - 1 + d.exponent
  if s.leastPositional ≤ lead ∧ lead ≤ s.mostPositional then positional digits d.exponent
  else s.scientific digits lead

/-- The text of a number; not a number and infinity have names. -/
def writeDouble (s : DecimalStyle) (x : Double) : String :=
  if x.isNaN then "NaN"
  else
    let sign := if x.isNegative then "-" else ""
    if x.isInfinite then sign ++ "inf" else sign ++ s.write (Decimal.shortest x)

end DecimalStyle

end TemplateDebug
