import TemplateDebug.Text.Case
import TemplateDebug.Text.CharClass
import TemplateDebug.Text.Utf8
import TemplateDebug.Text.Word
/-!
# ASCII text and decimal words

Text in ASCII is written one byte for each character, and strict reading gives it back. The decimal digits of a number
that fits a word read back as the number. Blanks and digits are kept apart by their code points.
-/

namespace TemplateDebug

namespace Utf8

/-- The bytes of text in ASCII, one for each character. -/
def ascii (cs : List Char) : Bytes := cs.map fun c => UInt8.ofNat c.toNat

/-- The characters are of ASCII. -/
def IsAscii (cs : List Char) : Prop := ∀ c ∈ cs, c.toNat < 128

variable {cs : List Char}

theorem encode_ascii (h : IsAscii cs) : encode (String.ofList cs) = ascii cs := by
  simp only [encode, ascii, String.toUTF8_eq_toByteArray, String.toByteArray_ofList, List.utf8Encode,
    List.data_toByteArray]
  induction cs with
  | nil => rfl
  | cons c cs ih =>
    have hc : c.utf8Size = 1 := by
      rw [Char.utf8Size_eq_one_iff, UInt32.le_iff_toNat_le]
      exact Nat.le_of_lt_succ (h c List.mem_cons_self)
    rw [List.flatMap_cons, List.map_cons, ← ih fun d hd => h d (List.mem_cons_of_mem _ hd),
      String.utf8EncodeChar_eq_singleton hc]
    rfl

/-- A byte of ASCII stands for a character by itself. -/
theorem next_ascii {c : Char} (h : c.toNat < 128) (rest : Bytes) :
    next (UInt8.ofNat c.toNat) rest = (some c, rest) := by
  have hn : (UInt8.ofNat c.toNat).toNat = c.toNat := by
    rw [UInt8.toNat_ofNat']
    omega
  simp [next, lead?, hn, h, continuation]

theorem charsOnto_ascii (h : IsAscii cs) : ∀ done, charsOnto done (ascii cs) = done.reverse ++ cs.map some := by
  induction cs with
  | nil => intro done; simp [ascii, charsOnto]
  | cons c cs ih =>
    intro done
    have hnext := next_ascii (h c List.mem_cons_self) (ascii cs)
    rw [ascii, List.map_cons, charsOnto]
    change charsOnto ((next (UInt8.ofNat c.toNat) (ascii cs)).1 :: done) (next (UInt8.ofNat c.toNat) (ascii cs)).2 = _
    rw [hnext, ih fun d hd => h d (List.mem_cons_of_mem _ hd)]
    simp

theorem decode?_ascii (h : IsAscii cs) : decode? (ascii cs) = some (String.ofList cs) := by
  simp [decode?, chars, charsOnto_ascii h]

end Utf8

namespace Text

/-! ## Classes -/

theorem toNat_of_isDigit {c : Char} (h : c.isDigit = true) : 48 ≤ c.toNat ∧ c.toNat ≤ 57 := by
  simpa [Char.isDigit, UInt32.le_iff_toNat_le] using h

theorem Ranges.contains_eq_false {r r' : Ranges} {c : Char} (hdisjoint : ∀ p ∈ r, ∀ q ∈ r', p.2 < q.1 ∨ q.2 < p.1)
    (h : r.contains c = true) : r'.contains c = false := by
  simp only [contains, List.any_eq_true, List.any_eq_false, Bool.and_eq_true, decide_eq_true_eq] at h ⊢
  obtain ⟨p, hp, hc⟩ := h
  intro q hq
  have := hdisjoint p hp q hq
  omega

/-- A blank is no digit of any script. -/
theorem isDigit_of_isBlank {c : Char} (h : isBlank c = true) : isDigit c = false := by
  have hdigits : digits.contains c = false := Ranges.contains_eq_false (by decide +kernel) h
  have hascii : Ranges.contains [(48, 57)] c = false := Ranges.contains_eq_false (by decide) h
  rw [isDigit, hdigits, Bool.or_false, ← Bool.not_eq_true]
  intro hdigit
  simp [Ranges.contains, toNat_of_isDigit hdigit] at hascii

/-- The two characters that match the letter. -/
theorem fold_eq_l {c : Char} (h : fold c = 'l') : c = 'l' ∨ c = 'L' := by
  unfold fold at h
  split at h
  · cases h
  · split at h
    · cases h
    · unfold Char.toLower at h
      split at h
      · rename_i hc
        have hval := congrArg Char.toNat h
        have hle := UInt32.le_iff_toNat_le.1 hc.2
        right
        apply Char.ext
        apply UInt32.toNat_inj.1
        simp [UInt32.toNat_add] at hval hle ⊢
        omega
      · exact .inl h

/-! ## Words -/

/-- Digits are read one after the other. -/
theorem wordFrom_append (s t : List Char) : ∀ read, wordFrom read (s ++ t) = (wordFrom read s).bind (wordFrom · t) := by
  induction s with
  | nil => exact fun _ => rfl
  | cons c s ih =>
    intro read
    simp only [List.cons_append, wordFrom]
    split
    · split
      · exact ih _
      · rfl
    · rfl

theorem wordFrom_digitChar {read d : Nat} (hd : d < 10) (h : read * 10 + d < wordBound) :
    wordFrom read [d.digitChar] = .ok (read * 10 + d) := by
  have hdigit : d.digitChar.isDigit = true := by simpa using hd
  have hvalue : d.digitChar.toNat - '0'.toNat = d := by
    rw [Nat.toNat_digitChar_of_lt_ten hd]
    change 48 + d - 48 = d
    omega
  simp only [wordFrom, hdigit, hvalue, h, if_true]

theorem wordFrom_toDigits (n : Nat) : n < wordBound → wordFrom 0 (Nat.toDigits 10 n) = .ok n := by
  induction n using Nat.strongRecOn with
  | ind n ih =>
    intro h
    rw [Nat.toDigits_eq_if (by omega)]
    split
    · rename_i hn
      simpa using wordFrom_digitChar hn (by omega : 0 * 10 + n < wordBound)
    · -- the last digit comes after those of the tenth part
      rw [wordFrom_append, ih (n / 10) (by omega) (by omega)]
      have hlast := wordFrom_digitChar (Nat.mod_lt n (by omega)) (by omega : n / 10 * 10 + n % 10 < wordBound)
      rwa [Nat.div_add_mod'] at hlast

theorem isDigit_of_mem_toDigits {n : Nat} {c : Char} (h : c ∈ Nat.toDigits 10 n) : c.isDigit = true :=
  Nat.isDigit_of_mem_toDigits (by omega) (by omega) h

/-- The digits of a number read back as the number. -/
theorem word_toDigits {n : Nat} (h : n < wordBound) : word (Nat.toDigits 10 n) = .ok n := by
  have hfrom := wordFrom_toDigits n h
  cases hd : Nat.toDigits 10 n with
  | nil => exact absurd hd Nat.toDigits_ne_nil
  | cons c cs =>
    have hc : c ≠ '+' := by
      rintro rfl
      have hdigit := isDigit_of_mem_toDigits (n := n) (hd ▸ List.mem_cons_self)
      exact absurd hdigit (by decide)
    rw [hd] at hfrom
    unfold word
    split
    · rename_i heq; cases heq
    · rename_i heq; exact absurd (List.cons.inj heq).1 hc
    · rename_i heq; exact absurd (List.cons.inj heq).1 hc
    · exact hfrom

end Text

end TemplateDebug
