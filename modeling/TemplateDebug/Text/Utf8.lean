/-!
# UTF-8

Bytes read as characters. `next` takes one character from the front, or the longest start of one when the bytes there
are ill formed. Strict reading refuses ill-formed bytes; lenient reading puts U+FFFD in the place of each such part.
-/

namespace TemplateDebug

abbrev Bytes := List UInt8

namespace Utf8

/-- What a first byte announces: the bits it gives, how many bytes follow, and the range of the first of those. -/
structure Lead where
  bits : Nat
  following : Nat
  low : Nat
  high : Nat

/-- The range of the second byte excludes overlong forms, surrogates and code points past U+10FFFF. -/
def lead? (b : UInt8) : Option Lead :=
  let n := b.toNat
  if n < 0x80 then some ⟨n, 0, 0, 0⟩
  else if n < 0xC2 then none
  else if n < 0xE0 then some ⟨n - 0xC0, 1, 0x80, 0xBF⟩
  else if n < 0xF0 then
    some ⟨n - 0xE0, 2, if n = 0xE0 then 0xA0 else 0x80, if n = 0xED then 0x9F else 0xBF⟩
  else if n < 0xF5 then
    some ⟨n - 0xF0, 3, if n = 0xF0 then 0x90 else 0x80, if n = 0xF4 then 0x8F else 0xBF⟩
  else none

/-- Reads `following` more bytes, the first of them within `low` and `high`; stops before the first byte that does
not fit. -/
def continuation (value : Nat) : Nat → Nat → Nat → Bytes → Option Nat × Bytes
  | 0, _, _, rest => (some value, rest)
  | _ + 1, _, _, [] => (none, [])
  | n + 1, low, high, b :: rest =>
    if low ≤ b.toNat ∧ b.toNat ≤ high then continuation (value * 64 + (b.toNat - 0x80)) n 0x80 0xBF rest
    else (none, b :: rest)

/-- The character that starts with `b`, none if the bytes there are ill formed, and the bytes after it. -/
def next (b : UInt8) (rest : Bytes) : Option Char × Bytes :=
  match lead? b with
  | none => (none, rest)
  | some l =>
    let r := continuation l.bits l.following l.low l.high rest
    (r.1.map Char.ofNat, r.2)

theorem continuation_length_le (value n low high : Nat) (rest : Bytes) :
    (continuation value n low high rest).2.length ≤ rest.length := by
  fun_induction continuation value n low high rest with
  | case1 => simp
  | case2 => simp
  | case3 _ _ _ _ _ _ _ ih => simp only [List.length_cons]; omega
  | case4 => simp

theorem next_length_le (b : UInt8) (rest : Bytes) : (next b rest).2.length ≤ rest.length := by
  unfold next
  split
  · simp
  · exact continuation_length_le ..

/-- The characters of `bytes` in front of `done`, which is held in reverse. -/
def charsOnto (done : List (Option Char)) : Bytes → List (Option Char)
  | [] => done.reverse
  | b :: rest =>
    let r := next b rest
    charsOnto (r.1 :: done) r.2
termination_by bytes => bytes.length
decreasing_by
  have := next_length_le b rest
  simp only [List.length_cons]
  omega

/-- The characters of a byte string, with `none` for each ill-formed part. -/
def chars (bytes : Bytes) : List (Option Char) := charsOnto [] bytes

/-- The text of well-formed bytes. -/
def decode? (bytes : Bytes) : Option String :=
  let cs := chars bytes
  if cs.all Option.isSome then some (String.ofList (cs.filterMap id)) else none

/-- The text of any bytes, with U+FFFD for each ill-formed part. -/
def decodeLossy (bytes : Bytes) : String := String.ofList ((chars bytes).map (·.getD '\ufffd'))

def encode (s : String) : Bytes := s.toUTF8.data.toList

end Utf8

end TemplateDebug
