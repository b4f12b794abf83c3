import Mathlib.Algebra.Group.Nat.Defs
import Mathlib.Data.List.Basic
import TemplateDebug.Proofs.Text.Ascii
/-!
# Joined bytes

Bytes that are joined where a character begins read as the characters of both parts. A byte of ASCII stands for a
character of its own and is no part of another, so that the bytes tell where a text has which characters of ASCII; and
when the case of its letters changes in the bytes, it changes in the text and nothing else does.
-/

namespace TemplateDebug.Utf8

variable {a b bytes rest : Bytes} {byte : UInt8} {c : Char} {cs : List Char} {s : String}
  {l : Lead} {value n low high v : Nat}

/-! ## Characters one after the other -/

theorem charsOnto_cons (done : List (Option Char)) (byte : UInt8) (rest : Bytes) :
    charsOnto done (byte :: rest) = charsOnto ((next byte rest).1 :: done) (next byte rest).2 := by
  rw [charsOnto]

theorem chars_nil : chars [] = [] := by
  rw [chars, charsOnto, List.reverse_nil]

/-- What holds of no bytes, and of bytes if it does of those after their first character, holds of all bytes. -/
@[elab_as_elim]
theorem chars_induction {motive : Bytes → Prop} (bytes : Bytes) (nil : motive [])
    (cons : ∀ byte rest, motive (next byte rest).2 → motive (byte :: rest)) : motive bytes := by
  induction hlength : bytes.length using Nat.strongRecOn generalizing bytes with
  | ind length ih =>
    cases bytes with
    | nil => exact nil
    | cons byte rest =>
      apply cons
      apply ih (next byte rest).2.length _ _ rfl
      have hrest := next_length_le byte rest
      rw [← hlength, List.length_cons]
      omega

theorem charsOnto_eq (done : List (Option Char)) (bytes : Bytes) :
    charsOnto done bytes = done.reverse ++ chars bytes := by
  induction bytes using chars_induction generalizing done with
  | nil => rw [charsOnto, chars_nil, List.append_nil]
  | cons byte rest ih =>
    rw [chars, charsOnto_cons, charsOnto_cons, ih, ih [_], List.reverse_cons, List.append_assoc]
    rfl

theorem chars_cons (byte : UInt8) (rest : Bytes) :
    chars (byte :: rest) = (next byte rest).1 :: chars (next byte rest).2 := by
  rw [chars, charsOnto_cons, charsOnto_eq]
  rfl

theorem decode?_eq_some_iff : decode? bytes = some s ↔ chars bytes = s.toList.map some := by
  have hall : ∀ cs : List (Option Char), cs.all Option.isSome = true → (cs.filterMap id).map some = cs := by
    intro cs
    induction cs with
    | nil => exact fun _ => rfl
    | cons c cs ih => cases c <;> simp_all
  simp only [decode?]
  constructor
  · intro h
    split at h
    · rename_i hsome
      cases h
      rw [String.toList_ofList, hall _ hsome]
    · cases h
  · intro h
    simp [h]

theorem decode?_eq_none_iff : decode? bytes = none ↔ none ∈ chars bytes := by
  simp [decode?]

/-! ## Where a character begins -/

/-- No character goes on here: there are no bytes, or the first of them continues none. -/
def Begins (bytes : Bytes) : Prop := ∀ byte ∈ bytes.head?, byte.toNat < 0x80 ∨ 0xBF < byte.toNat

theorem continuation_append (value n : Nat)
    (h : Begins b ∧ 0x80 ≤ low ∧ high ≤ 0xBF ∨ (continuation value n low high rest).1 ≠ none) :
    continuation value n low high (rest ++ b) =
      ((continuation value n low high rest).1, (continuation value n low high rest).2 ++ b) := by
  fun_induction continuation value n low high rest with
  | case1 => simp [continuation]
  | case2 =>
    -- the character is cut off here, and what is joined does not go on with it
    obtain ⟨hb, hlow, hhigh⟩ := h.resolve_right fun hsome => hsome rfl
    cases b with
    | nil => rfl
    | cons byte b =>
      have hbyte := hb byte rfl
      rw [List.nil_append, continuation, if_neg (by omega)]
  | case3 value n low high byte rest hrange ih =>
    rw [List.cons_append, continuation, if_pos hrange]
    exact ih (h.imp_left fun h => ⟨h.1, Nat.le_refl _, Nat.le_refl _⟩)
  | case4 value n low high byte rest hrange =>
    rw [List.cons_append, continuation, if_neg hrange]

/-- What the other bytes may add to the bits of a first byte that is not of ASCII: never so little that the character is
of ASCII, and no surrogate. -/
theorem lead?_of_le (hbyte : 0x80 ≤ byte.toNat) (h : lead? byte = some l) :
    ∃ n, l.following = n + 1 ∧ 0x80 ≤ l.low ∧ l.high ≤ 0xBF ∧ 0x80 ≤ (l.bits * 64 + (l.low - 0x80)) * 64 ^ n ∧
      ((l.bits * 64 + (l.high - 0x80) + 1) * 64 ^ n ≤ 0xD800 ∨
        0xE000 ≤ (l.bits * 64 + (l.low - 0x80)) * 64 ^ n ∧
          (l.bits * 64 + (l.high - 0x80) + 1) * 64 ^ n ≤ 0x110000) := by
  unfold lead? at h
  simp only [Nat.not_lt.2 hbyte, if_false] at h
  split at h
  · cases h
  split at h
  · obtain rfl := Option.some.inj h
    refine ⟨0, rfl, ?_⟩
    dsimp only
    omega
  split at h
  · obtain rfl := Option.some.inj h
    refine ⟨1, rfl, ?_⟩
    dsimp only
    split <;> split <;> omega
  split at h
  · obtain rfl := Option.some.inj h
    refine ⟨2, rfl, ?_⟩
    dsimp only
    split <;> split <;> omega
  · cases h

theorem lead?_bounds (h : lead? byte = some l) : l.following = 0 ∨ 0x80 ≤ l.low ∧ l.high ≤ 0xBF := by
  by_cases hbyte : byte.toNat < 0x80
  · rw [lead?, if_pos hbyte] at h
    cases h
    exact .inl rfl
  · obtain ⟨_, -, hlow, hhigh, -⟩ := lead?_of_le (Nat.not_lt.1 hbyte) h
    exact .inr ⟨hlow, hhigh⟩

theorem next_append (byte : UInt8) (h : Begins b ∨ (next byte rest).1 ≠ none) :
    next byte (rest ++ b) = ((next byte rest).1, (next byte rest).2 ++ b) := by
  unfold next at h ⊢
  cases hlead : lead? byte with
  | none => rfl
  | some l =>
    simp only [hlead] at h ⊢
    rcases lead?_bounds hlead with hzero | hbounds
    · rw [hzero]
      simp [continuation]
    · rw [continuation_append]
      rcases h with hb | hsome
      · exact .inl ⟨hb, hbounds⟩
      · right
        rintro hnone
        simp [hnone] at hsome

/-- Bytes are joined where a character begins, or after whole characters. -/
theorem chars_append (h : Begins b ∨ none ∉ chars a) : chars (a ++ b) = chars a ++ chars b := by
  induction a using chars_induction with
  | nil => simp [chars_nil]
  | cons byte rest ih =>
    rw [chars_cons, List.mem_cons, not_or] at h
    rw [List.cons_append, chars_cons, chars_cons, next_append byte (h.imp_right fun h => Ne.symm h.1),
      ih (h.imp_right fun h => h.2)]
    rfl

theorem decode?_append (h : Begins b ∨ decode? a ≠ none) :
    decode? (a ++ b) = (decode? a).bind fun s => (decode? b).map (s ++ ·) := by
  rw [Ne, decode?_eq_none_iff] at h
  ext s
  simp only [Option.bind_eq_some_iff, Option.map_eq_some_iff, decode?_eq_some_iff, chars_append h]
  constructor
  · intro hs
    obtain ⟨ls, rs, hsplit, hl, hr⟩ := List.map_eq_append_iff.1 hs.symm
    refine ⟨String.ofList ls, by simp [hl], String.ofList rs, by simp [hr], ?_⟩
    rw [← String.ofList_append, ← hsplit, String.ofList_toList]
  · rintro ⟨left, hl, right, hr, rfl⟩
    simp [hl, hr]

/-- Well-formed bytes begin where a character does. -/
theorem begins_of_decode? (h : decode? bytes ≠ none) : Begins bytes := by
  intro byte hbyte
  obtain ⟨rest, rfl⟩ := List.head?_eq_some_iff.1 hbyte
  rw [Ne, decode?_eq_none_iff, chars_cons, List.mem_cons, not_or] at h
  by_contra hnone
  apply h.1
  have hlead : lead? byte = none := by
    rw [lead?, if_neg (by omega), if_pos (by omega)]
  rw [next, hlead]

/-! ## Bytes of ASCII -/

theorem next_of_lt (h : byte.toNat < 0x80) (rest : Bytes) : next byte rest = (some (Char.ofNat byte.toNat), rest) := by
  simp [next, lead?, h, continuation]

theorem continuation_bounds (h : (continuation value (n + 1) low high rest).1 = some v) :
    (value * 64 + (low - 0x80)) * 64 ^ n ≤ v ∧ v < (value * 64 + (high - 0x80) + 1) * 64 ^ n := by
  induction n generalizing value low high rest with
  | zero =>
    cases rest with
    | nil => cases h
    | cons byte rest =>
      rw [continuation] at h
      split at h
      · rw [continuation] at h
        obtain rfl := Option.some.inj h
        omega
      · cases h
  | succ n ih =>
    cases rest with
    | nil => cases h
    | cons byte rest =>
      rw [continuation] at h
      split at h
      · rename_i hrange
        obtain ⟨hlow, hhigh⟩ := ih h
        have hpow : ∀ m, m * 64 ^ (n + 1) = m * 64 * 64 ^ n := by
          intro m
          rw [Nat.pow_succ', Nat.mul_assoc]
        rw [hpow, hpow]
        constructor
        · refine Nat.le_trans (Nat.mul_le_mul_right _ ?_) hlow
          omega
        · refine Nat.lt_of_lt_of_le hhigh (Nat.mul_le_mul_right _ ?_)
          omega
      · cases h

/-- Other bytes stand for no character of ASCII. -/
theorem le_of_next (hbyte : 0x80 ≤ byte.toNat) (h : (next byte rest).1 = some c) : 0x80 ≤ c.toNat := by
  unfold next at h
  cases hlead : lead? byte with
  | none =>
    rw [hlead] at h
    cases h
  | some l =>
    rw [hlead] at h
    obtain ⟨v, hv, rfl⟩ := Option.map_eq_some_iff.1 h
    obtain ⟨n, hfollowing, -, -, hlarge, hvalid⟩ := lead?_of_le hbyte hlead
    rw [hfollowing] at hv
    obtain ⟨hlow, hhigh⟩ := continuation_bounds hv
    have hchar : v.isValidChar := by
      rcases hvalid with hsmall | ⟨hbig, hmax⟩
      · exact .inl (by omega)
      · exact .inr ⟨by omega, by omega⟩
    have hvalue : (Char.ofNat v).toNat = v := by
      rw [Char.ofNat, dif_pos hchar]
      rfl
    omega

theorem isAscii_iff : IsAscii cs ↔ cs.all (·.toNat < 0x80) = true := by
  simp [IsAscii]

/-- A character of ASCII is read from its byte alone. -/
theorem next_eq_ascii (hc : c.toNat < 0x80) (h : (next byte rest).1 = some c) :
    byte = UInt8.ofNat c.toNat ∧ (next byte rest).2 = rest := by
  have hbyte : byte.toNat < 0x80 := by
    rw [← Nat.not_le]
    intro hle
    have := le_of_next hle h
    omega
  rw [next_of_lt hbyte] at h ⊢
  refine ⟨?_, rfl⟩
  rw [← Option.some.inj h, Char.ofNat, dif_pos (.inl (by omega))]
  exact UInt8.ofNat_toNat.symm

/-- Text in ASCII has the bytes of its characters and no others. -/
theorem eq_ascii_of_chars (h : IsAscii cs) (hchars : chars bytes = cs.map some) : bytes = ascii cs := by
  induction bytes using chars_induction generalizing cs with
  | nil =>
    rw [chars_nil, eq_comm, List.map_eq_nil_iff] at hchars
    rw [hchars]
    rfl
  | cons byte rest ih =>
    rw [chars_cons] at hchars
    cases cs with
    | nil => cases hchars
    | cons c cs =>
      obtain ⟨hc, hcs⟩ := List.forall_mem_cons.1 h
      obtain ⟨hfirst, hothers⟩ := List.cons.inj hchars
      obtain ⟨hbyte, hrest⟩ := next_eq_ascii hc hfirst
      have hascii := ih hcs hothers
      rw [hrest] at hascii
      rw [hbyte, hascii]
      rfl

theorem continuation_suffix (value n low high : Nat) (rest : Bytes) :
    (continuation value n low high rest).2 <:+ rest := by
  fun_induction continuation value n low high rest with
  | case1 | case2 | case4 => exact List.suffix_refl _
  | case3 _ _ _ _ byte rest _ ih => exact ih.trans (List.suffix_cons byte rest)

theorem next_suffix (byte : UInt8) (rest : Bytes) : (next byte rest).2 <:+ rest := by
  unfold next
  split
  · exact List.suffix_refl rest
  · exact continuation_suffix _ _ _ _ rest

/-- A character of ASCII in the text has its byte among the bytes. -/
theorem mem_of_mem_chars (hc : c.toNat < 0x80) (h : some c ∈ chars bytes) : UInt8.ofNat c.toNat ∈ bytes := by
  induction bytes using chars_induction with
  | nil =>
    rw [chars_nil] at h
    cases h
  | cons byte rest ih =>
    rw [chars_cons, List.mem_cons] at h
    rcases h with hfirst | hothers
    · rw [(next_eq_ascii hc hfirst.symm).1]
      exact List.mem_cons_self
    · exact List.mem_cons_of_mem byte ((next_suffix byte rest).subset (ih hothers))

theorem notMem_of_decode? (h : decode? bytes = some s) (hc : c.toNat < 0x80) (hbyte : UInt8.ofNat c.toNat ∉ bytes) :
    c ∉ s.toList := by
  intro hmem
  rw [decode?_eq_some_iff] at h
  apply hbyte
  apply mem_of_mem_chars hc
  rw [h]
  exact List.mem_map_of_mem hmem

/-! ## Letters of either case -/

/-- The byte of the small letter, for that of a capital. -/
def lowerByte (byte : UInt8) : UInt8 := if 65 ≤ byte.toNat ∧ byte.toNat ≤ 90 then byte + 32 else byte

theorem toNat_lowerByte (byte : UInt8) :
    (lowerByte byte).toNat = if 65 ≤ byte.toNat ∧ byte.toNat ≤ 90 then byte.toNat + 32 else byte.toNat := by
  unfold lowerByte
  split
  · rw [UInt8.toNat_add]
    change (byte.toNat + 32) % 256 = byte.toNat + 32
    omega
  · rfl

/-- Only letters are changed, and only to letters. -/
theorem mem_map_lowerByte_iff (h : byte.toNat < 65) : byte ∈ bytes.map lowerByte ↔ byte ∈ bytes := by
  have hsame : ∀ other, lowerByte other = byte ↔ other = byte := by
    intro other
    have hother := toNat_lowerByte other
    rw [← UInt8.toNat_inj, ← UInt8.toNat_inj, hother]
    split <;> omega
  simp [List.mem_map, hsame]

theorem mem_iff_of_map_lowerByte (h : byte.toNat < 65) (hsame : a.map lowerByte = b.map lowerByte) :
    byte ∈ a ↔ byte ∈ b := by
  rw [← mem_map_lowerByte_iff h, hsame, mem_map_lowerByte_iff h]

theorem toLower_of_le (h : 0x80 ≤ c.toNat) : c.toLower = c := by
  unfold Char.toLower
  rw [dif_neg]
  rintro ⟨-, hhigh⟩
  have hhigh : c.toNat ≤ 90 := UInt32.le_iff_toNat_le.1 hhigh
  omega

theorem continuation_map_lowerByte (h : 0x80 ≤ low) :
    continuation value n low high (rest.map lowerByte) =
      ((continuation value n low high rest).1, (continuation value n low high rest).2.map lowerByte) := by
  fun_induction continuation value n low high rest with
  | case1 => simp [continuation]
  | case2 => rfl
  | case3 value n low high byte rest hrange ih =>
    have hbyte := toNat_lowerByte byte
    rw [if_neg (by omega)] at hbyte
    rw [List.map_cons, continuation, hbyte, if_pos hrange]
    exact ih (Nat.le_refl _)
  | case4 value n low high byte rest hrange =>
    have hbyte := toNat_lowerByte byte
    rw [List.map_cons, continuation, if_neg]
    split at hbyte <;> omega

theorem next_lowerByte (byte : UInt8) (rest : Bytes) : next (lowerByte byte) (rest.map lowerByte) =
    ((next byte rest).1.map Char.toLower, (next byte rest).2.map lowerByte) := by
  have hbyte := toNat_lowerByte byte
  by_cases hascii : byte.toNat < 0x80
  · have hlower : ∀ n < 0x80, Char.ofNat (if 65 ≤ n ∧ n ≤ 90 then n + 32 else n) = (Char.ofNat n).toLower := by
      decide
    have hlt : (lowerByte byte).toNat < 0x80 := by
      split at hbyte <;> omega
    rw [next_of_lt hlt, next_of_lt hascii, hbyte, hlower _ hascii]
    rfl
  · have hsame : lowerByte byte = byte := if_neg (by omega)
    rw [hsame]
    have hchar : (next byte rest).1.map Char.toLower = (next byte rest).1 := by
      cases hnext : (next byte rest).1 with
      | none => rfl
      | some c => rw [Option.map_some, toLower_of_le (le_of_next (Nat.not_lt.1 hascii) hnext)]
    rw [hchar]
    unfold next
    cases hlead : lead? byte with
    | none => rfl
    | some l =>
      obtain ⟨_, -, hlow, -⟩ := lead?_of_le (Nat.not_lt.1 hascii) hlead
      dsimp only
      rw [continuation_map_lowerByte hlow]

theorem chars_map_lowerByte (bytes : Bytes) :
    chars (bytes.map lowerByte) = (chars bytes).map (Option.map Char.toLower) := by
  induction bytes using chars_induction with
  | nil => rw [List.map_nil, chars_nil, List.map_nil]
  | cons byte rest ih => rw [List.map_cons, chars_cons, chars_cons, next_lowerByte, ih, List.map_cons]

/-- Bytes with small letters are the text with small letters. -/
theorem decode?_map_lowerByte (bytes : Bytes) :
    (decode? (bytes.map lowerByte)).map String.toList = (decode? bytes).map (·.toList.map Char.toLower) := by
  have hchars := chars_map_lowerByte bytes
  cases hdecode : decode? bytes with
  | none =>
    rw [decode?_eq_none_iff] at hdecode
    have hlower : decode? (bytes.map lowerByte) = none := by
      rw [decode?_eq_none_iff, hchars]
      exact List.mem_map.2 ⟨none, hdecode, rfl⟩
    rw [hlower]
    rfl
  | some s =>
    rw [decode?_eq_some_iff] at hdecode
    have hlower : decode? (bytes.map lowerByte) = some (String.ofList (s.toList.map Char.toLower)) := by
      rw [decode?_eq_some_iff, hchars, hdecode]
      simp
    rw [hlower]
    simp

end TemplateDebug.Utf8
