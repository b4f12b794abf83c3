import Mathlib.Computability.Language
import TemplateDebug.Text.Case
import TemplateDebug.Text.CharClass
/-!
# Patterns of text

A pattern is a language: classes of characters, words, repetition and choice, with nothing said about how far each part
reaches. A reader goes over a text once and never steps back. It finds what a pattern describes where each part takes
all it can, and what comes after the part never starts with a character that the part would take.
-/

open scoped Computability

namespace TemplateDebug.Pattern

/-- One character of a class. -/
def one (p : Char → Bool) : Language Char := {s | ∃ c, p c = true ∧ s = [c]}

/-- A given character. -/
def only (c : Char) : Language Char := one (· = c)

/-- One or more characters of a class. -/
def many (p : Char → Bool) : Language Char := one p * (one p)∗

/-- A word that is written in folded letters, in letters of either case. -/
def anyCase (w : List Char) : Language Char := {s | s.map Text.fold = w}

/-- The pattern, or nothing. -/
def orNothing (X : Language Char) : Language Char := 1 + X

/-- The texts of both languages. -/
def both (X Y : Language Char) : Language Char := {s | s ∈ X ∧ s ∈ Y}

def anyBlanks : Language Char := (one Text.isBlank)∗

/-- No text of the language starts with a character of the class. -/
def Avoids (p : Char → Bool) (Y : Language Char) : Prop := ∀ c s, c :: s ∈ Y → p c = false

variable {p q : Char → Bool} {X Y : Language Char} {c d : Char} {s w : List Char}

/-! ## One character -/

@[simp]
theorem nil_mem_one_mul : [] ∈ one p * Y ↔ False := by
  refine ⟨?_, False.elim⟩
  rintro ⟨_, ⟨c, -, rfl⟩, b, -, happend⟩
  exact List.cons_ne_nil c b happend

@[simp]
theorem cons_mem_one_mul : c :: s ∈ one p * Y ↔ p c = true ∧ s ∈ Y := by
  constructor
  · rintro ⟨_, ⟨d, hd, rfl⟩, b, hb, happend⟩
    cases happend
    exact ⟨hd, hb⟩
  · rintro ⟨hc, hs⟩
    exact ⟨[c], ⟨c, hc, rfl⟩, s, hs, rfl⟩

@[simp]
theorem nil_mem_only_mul : [] ∈ only c * Y ↔ False := nil_mem_one_mul

@[simp]
theorem cons_mem_only_mul : d :: s ∈ only c * Y ↔ d = c ∧ s ∈ Y := by
  rw [only, cons_mem_one_mul, decide_eq_true_iff]

theorem mem_only_mul_iff : s ∈ only c * Y ↔ ∃ t, s = c :: t ∧ t ∈ Y := by
  cases s with
  | nil => simp
  | cons d s =>
    rw [cons_mem_only_mul]
    constructor
    · rintro ⟨rfl, hs⟩
      exact ⟨s, rfl, hs⟩
    · rintro ⟨t, heq, ht⟩
      cases heq
      exact ⟨rfl, ht⟩

@[simp]
theorem mem_top : s ∈ (⊤ : Language Char) := trivial

@[simp]
theorem mem_both : s ∈ both X Y ↔ s ∈ X ∧ s ∈ Y := Iff.rfl

theorem both_top : both ⊤ X = X := by
  ext s
  simp

/-! ## Repetition -/

theorem star_mul : (one p)∗ * Y = Y + one p * ((one p)∗ * Y) := by
  conv_lhs => rw [← Language.one_add_self_mul_kstar_eq_kstar, add_mul, one_mul, mul_assoc]

/-- A repetition takes all it can. -/
theorem mem_star_mul_iff (h : Avoids p Y) : s ∈ (one p)∗ * Y ↔ s.dropWhile p ∈ Y := by
  induction s with
  | nil =>
    rw [star_mul, Language.mem_add, nil_mem_one_mul, or_false]
    rfl
  | cons c s ih =>
    rw [star_mul, Language.mem_add, cons_mem_one_mul, ih]
    cases hc : p c with
    | true =>
      have hnot : c :: s ∉ Y := fun hmem => by simp [h c s hmem] at hc
      simp [hc, hnot]
    | false => simp [hc]

@[simp]
theorem nil_mem_many_mul : [] ∈ many p * Y ↔ False := by
  rw [many, mul_assoc, nil_mem_one_mul]

theorem cons_mem_many_mul (h : Avoids p Y) : c :: s ∈ many p * Y ↔ p c = true ∧ s.dropWhile p ∈ Y := by
  rw [many, mul_assoc, cons_mem_one_mul, mem_star_mul_iff h]

/-- One or more of the same character. -/
theorem mem_many_eq_mul_iff (h : Avoids (· = c) Y) :
    s ∈ many (· = c) * Y ↔ ∃ t, s = c :: t ∧ t.dropWhile (· = c) ∈ Y := by
  cases s with
  | nil => simp
  | cons d s =>
    rw [cons_mem_many_mul h, decide_eq_true_iff]
    constructor
    · rintro ⟨rfl, hs⟩
      exact ⟨s, rfl, hs⟩
    · rintro ⟨t, heq, ht⟩
      cases heq
      exact ⟨rfl, ht⟩

/-- Where the rest may start anywhere, too, the repetition ends at some place. -/
theorem cons_mem_many_mul_iff : c :: s ∈ many p * Y ↔ p c = true ∧ (s ∈ Y ∨ s ∈ many p * Y) := by
  rw [many, mul_assoc, cons_mem_one_mul]
  conv_lhs => rw [star_mul, Language.mem_add]

theorem mem_star_iff : s ∈ (one p)∗ ↔ ∀ c ∈ s, p c = true := by
  induction s with
  | nil => simp [Language.nil_mem_kstar]
  | cons c s ih =>
    rw [← Language.one_add_self_mul_kstar_eq_kstar, Language.mem_add, cons_mem_one_mul, ih]
    simp [Language.mem_one]

theorem mem_many_iff : s ∈ many p ↔ s ≠ [] ∧ ∀ c ∈ s, p c = true := by
  cases s with
  | nil =>
    have hnil : [] ∈ many p * 1 ↔ False := nil_mem_many_mul
    rw [mul_one] at hnil
    simp [hnil]
  | cons c s => simp [many, mem_star_iff]

/-- What is taken from the front ends where the rest starts. -/
theorem takeWhile_append_of_avoids (hs : ∀ c ∈ s, p c = true) (hY : Avoids p Y) {t : List Char} (ht : t ∈ Y) :
    (s ++ t).takeWhile p = s ∧ (s ++ t).dropWhile p = t := by
  rw [List.takeWhile_append_of_pos hs, List.dropWhile_append_of_pos hs]
  cases t with
  | nil => simp
  | cons c t => simp [hY c t ht]

theorem mem_anyBlanks_mul_iff (h : Avoids Text.isBlank Y) : s ∈ anyBlanks * Y ↔ Text.dropBlanks s ∈ Y :=
  mem_star_mul_iff h

/-! ## Words -/

@[simp]
theorem mem_anyCase : s ∈ anyCase w ↔ s.map Text.fold = w := Iff.rfl

theorem anyCase_nil : anyCase [] = 1 := by
  ext s
  simp [Language.mem_one]

theorem anyCase_cons {l : Char} : anyCase (l :: w) = one (fun c => Text.fold c = l) * anyCase w := by
  ext s
  cases s with
  | nil => simp
  | cons c s => simp

theorem anyCase_append {v : List Char} : anyCase (v ++ w) = anyCase v * anyCase w := by
  induction v with
  | nil => rw [anyCase_nil, one_mul, List.nil_append]
  | cons l v ih => rw [List.cons_append, anyCase_cons, anyCase_cons, ih, mul_assoc]

/-- A word is as long as it is written, so it ends at one place. -/
theorem mem_anyCase_mul_iff : s ∈ anyCase w * Y ↔ ∃ rest ∈ Text.dropWord? w s, rest ∈ Y := by
  induction w generalizing s with
  | nil => simp [anyCase_nil, Text.dropWord?]
  | cons l w ih =>
    rw [anyCase_cons, mul_assoc]
    cases s with
    | nil => simp [Text.dropWord?]
    | cons c s => by_cases hc : Text.fold c = l <;> simp [Text.dropWord?, hc, ih]

theorem dropWord?_eq_some_iff {rest : List Char} :
    Text.dropWord? w s = some rest ↔ ∃ v, v.map Text.fold = w ∧ v ++ rest = s := by
  have h : s ∈ anyCase w * {rest} ↔ ∃ r ∈ Text.dropWord? w s, r = rest := mem_anyCase_mul_iff
  rw [Language.mem_mul] at h
  constructor
  · intro hdrop
    obtain ⟨v, hv, _, rfl, happend⟩ := h.2 ⟨rest, hdrop, rfl⟩
    exact ⟨v, hv, happend⟩
  · rintro ⟨v, hv, happend⟩
    obtain ⟨_, hdrop, rfl⟩ := h.1 ⟨v, hv, rest, rfl, happend⟩
    exact hdrop

/-! ## What a rest starts with -/

/-- That no character is of two classes goes either way. -/
theorem apart_comm (h : ∀ c, q c = true → p c = false) (c : Char) (hc : p c = true) : q c = false := by
  rw [← Bool.not_eq_true]
  intro hq
  exact Bool.false_ne_true ((h c hq).symm.trans hc)

theorem avoids_one_mul (h : ∀ c, q c = true → p c = false) : Avoids p (one q * Y) := by
  intro c s hmem
  exact h c (cons_mem_one_mul.1 hmem).1

theorem avoids_only_mul (h : p c = false) : Avoids p (only c * Y) := by
  intro d s hmem
  rwa [(cons_mem_only_mul.1 hmem).1]

theorem avoids_many_mul (h : ∀ c, q c = true → p c = false) : Avoids p (many q * Y) := by
  rw [many, mul_assoc]
  exact avoids_one_mul h

theorem avoids_anyCase_mul {l : Char} (h : ∀ c, Text.fold c = l → p c = false) : Avoids p (anyCase (l :: w) * Y) := by
  rw [anyCase_cons, mul_assoc]
  exact avoids_one_mul fun c hc => h c (of_decide_eq_true hc)

theorem avoids_add (hX : Avoids p X) (hY : Avoids p Y) : Avoids p (X + Y) := by
  rintro c s (hmem | hmem)
  · exact hX c s hmem
  · exact hY c s hmem

theorem avoids_orNothing_mul (hX : Avoids p (X * Y)) (hY : Avoids p Y) : Avoids p (orNothing X * Y) := by
  rw [orNothing, add_mul, one_mul]
  exact avoids_add hY hX

theorem avoids_star_mul (h : ∀ c, q c = true → p c = false) (hY : Avoids p Y) : Avoids p ((one q)∗ * Y) := by
  rw [star_mul]
  exact avoids_add hY (avoids_one_mul h)

theorem Avoids.mono (hY : Avoids p Y) (h : ∀ s ∈ X, s ∈ Y) : Avoids p X := fun c s hs => hY c s (h _ hs)

theorem avoids_one : Avoids p 1 := by
  intro c s hmem
  exact absurd hmem (List.cons_ne_nil c s)

end TemplateDebug.Pattern
