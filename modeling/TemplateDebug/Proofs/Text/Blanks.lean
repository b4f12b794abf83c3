import Mathlib.Data.List.DropRight
import TemplateDebug.Proofs.Text.Ascii
import TemplateDebug.Text.Lines
/-!
# Blanks at the end of a text

Texts that differ in the blanks at their end have one text without such blanks. What takes characters other than blanks
from the front takes the same with them and without.
-/

namespace TemplateDebug.Text

variable {s t word : List Char} {c : Char} {p : Char → Bool}

/-- The text without the blanks at its end. -/
def dropFinalBlanks (s : List Char) : List Char := s.rdropWhile isBlank

@[simp]
theorem dropFinalBlanks_nil : dropFinalBlanks [] = [] := rfl

theorem dropFinalBlanks_cons (c : Char) (s : List Char) : dropFinalBlanks (c :: s) =
    if isBlank c && (dropFinalBlanks s).isEmpty then [] else c :: dropFinalBlanks s := by
  rw [dropFinalBlanks, dropFinalBlanks, List.rdropWhile, List.rdropWhile, List.reverse_cons, List.dropWhile_append]
  cases s.reverse.dropWhile isBlank with
  | nil => cases hc : isBlank c <;> simp [hc]
  | cons d t => simp

theorem dropFinalBlanks_cons_of_not (hc : isBlank c = false) (s : List Char) :
    dropFinalBlanks (c :: s) = c :: dropFinalBlanks s := by
  rw [dropFinalBlanks_cons, hc]
  rfl

theorem dropFinalBlanks_eq_cons_iff (hc : isBlank c = false) :
    dropFinalBlanks s = c :: t ↔ ∃ u, s = c :: u ∧ dropFinalBlanks u = t := by
  cases s with
  | nil => simp
  | cons d s =>
    rw [dropFinalBlanks_cons]
    split
    · rename_i hd
      have hne : d ≠ c := by
        rintro rfl
        simp [hc] at hd
      simp [hne]
    · simp

/-- What stands before a character that is no blank stays. -/
theorem dropFinalBlanks_append_cons (s : List Char) (hc : isBlank c = false) (t : List Char) :
    dropFinalBlanks (s ++ c :: t) = s ++ c :: dropFinalBlanks t := by
  induction s with
  | nil => exact dropFinalBlanks_cons_of_not hc t
  | cons d s ih =>
    rw [List.cons_append, dropFinalBlanks_cons, ih]
    simp

theorem dropBlanks_dropFinalBlanks (s : List Char) :
    dropBlanks (dropFinalBlanks s) = dropFinalBlanks (dropBlanks s) := by
  induction s with
  | nil => rfl
  | cons c s ih =>
    rw [dropFinalBlanks_cons]
    cases hc : isBlank c with
    | false => simp [dropBlanks, hc, dropFinalBlanks_cons]
    | true =>
      have hdrop : dropBlanks (c :: s) = dropBlanks s := List.dropWhile_cons_of_pos hc
      rw [hdrop, ← ih]
      cases dropFinalBlanks s with
      | nil => rfl
      | cons d t => exact List.dropWhile_cons_of_pos hc

theorem isEmpty_dropBlanks_dropFinalBlanks (s : List Char) :
    (dropBlanks (dropFinalBlanks s)).isEmpty = (dropBlanks s).isEmpty := by
  rw [dropBlanks_dropFinalBlanks, Bool.eq_iff_iff, List.isEmpty_iff, List.isEmpty_iff, dropFinalBlanks,
    List.rdropWhile_eq_nil_iff, ← List.dropWhile_eq_nil_iff]
  exact iff_of_eq (congrArg (· = []) (List.dropWhile_idempotent isBlank s))

theorem takeWhile_dropFinalBlanks (hp : ∀ c, isBlank c = true → p c = false) (s : List Char) :
    (dropFinalBlanks s).takeWhile p = s.takeWhile p := by
  induction s with
  | nil => rfl
  | cons c s ih =>
    rw [dropFinalBlanks_cons]
    cases hc : isBlank c with
    | false => simp [List.takeWhile_cons, ih]
    | true => cases dropFinalBlanks s <;> simp [hp c hc]

theorem dropWhile_dropFinalBlanks (hp : ∀ c, isBlank c = true → p c = false) (s : List Char) :
    (dropFinalBlanks s).dropWhile p = dropFinalBlanks (s.dropWhile p) := by
  induction s with
  | nil => rfl
  | cons c s ih =>
    cases hc : p c with
    | true =>
      have hblank : isBlank c = false := by
        rw [← Bool.not_eq_true]
        intro hblank
        exact Bool.false_ne_true ((hp c hblank).symm.trans hc)
      rw [dropFinalBlanks_cons_of_not hblank, List.dropWhile_cons_of_pos hc, List.dropWhile_cons_of_pos hc, ih]
    | false =>
      rw [List.dropWhile_cons_of_neg (by simp [hc]), dropFinalBlanks_cons]
      split
      · rfl
      · exact List.dropWhile_cons_of_neg (by simp [hc])

/-- A blank is no letter. -/
theorem fold_of_isBlank (hc : isBlank c = true) : fold c = c := by
  have hlong : c ≠ '\u017f' := by
    rintro rfl
    exact absurd hc (by decide)
  have hkelvin : c ≠ '\u212a' := by
    rintro rfl
    exact absurd hc (by decide)
  have hupper : Ranges.contains [(65, 90)] c = false := Ranges.contains_eq_false (by decide) hc
  rw [fold, if_neg hlong, if_neg hkelvin]
  unfold Char.toLower
  rw [dif_neg]
  rintro ⟨hlow, hhigh⟩
  have hlow : 65 ≤ c.toNat := UInt32.le_iff_toNat_le.1 hlow
  have hhigh : c.toNat ≤ 90 := UInt32.le_iff_toNat_le.1 hhigh
  simp [Ranges.contains, hlow, hhigh] at hupper

/-- A word without blanks ends before the blanks at the end of the text. -/
theorem dropWord?_dropFinalBlanks (hword : word.all (!isBlank ·) = true) (s : List Char) :
    dropWord? word (dropFinalBlanks s) = (dropWord? word s).map dropFinalBlanks := by
  induction word generalizing s with
  | nil => rfl
  | cons w word ih =>
    rw [List.all_cons, Bool.and_eq_true, Bool.not_eq_true'] at hword
    cases s with
    | nil => rfl
    | cons c s =>
      cases hc : isBlank c with
      | false =>
        rw [dropFinalBlanks_cons_of_not hc, dropWord?, dropWord?, ih hword.2]
        split <;> rfl
      | true =>
        have hne : fold c ≠ w := by
          rw [fold_of_isBlank hc]
          rintro rfl
          exact Bool.false_ne_true (hword.1.symm.trans hc)
        rw [dropFinalBlanks_cons]
        split <;> simp [dropWord?, hne]

theorem dropFinalBlanks_dropFinalReturn (s : List Char) : dropFinalBlanks (dropFinalReturn s) = dropFinalBlanks s := by
  unfold dropFinalReturn
  split
  · rename_i hlast
    obtain ⟨t, rfl⟩ := List.getLast?_eq_some_iff.1 hlast
    rw [List.dropLast_concat]
    exact (List.rdropWhile_concat_pos isBlank t '\r' (by decide)).symm
  · rfl

/-- Blanks in front of a text and after it do not matter once it is trimmed. -/
theorem trim_blanks_append (h : ∀ c ∈ t, isBlank c = true) (s : List Char) : trim (t ++ s) = trim s := by
  have hdrop : dropBlanks (t ++ s) = dropBlanks s := List.dropWhile_append_of_pos h
  rw [trim, hdrop, trim]

theorem trim_append_blanks (h : ∀ c ∈ t, isBlank c = true) (s : List Char) : trim (s ++ t) = trim s := by
  have htrim : ∀ s, trim s = dropBlanks (dropFinalBlanks s) := fun s => (dropBlanks_dropFinalBlanks s).symm
  have hreverse : ∀ c ∈ t.reverse, isBlank c = true := fun c hc => h c (List.mem_reverse.1 hc)
  rw [htrim, htrim, dropFinalBlanks, List.rdropWhile, List.reverse_append, List.dropWhile_append_of_pos hreverse]
  rfl

end TemplateDebug.Text
