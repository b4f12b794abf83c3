import Mathlib.Data.List.Basic
import TemplateDebug.Disk.Tree
import TemplateDebug.Template.Reference
/-!
# Spellings of a path

Paths with the same components are spelled alike up to repeated slashes, dots and what stands at the end. A spelling
that ends in a slash or a dot asks for a directory, and the file system refuses one that is too long; any other names
a file, if anything does.
-/

namespace TemplateDebug

namespace Text

theorem splitParts_ne_nil (sep : Char → Bool) (s : List Char) : splitParts sep s ≠ [] := by
  induction s with
  | nil => simp [splitParts]
  | cons c s ih =>
    rw [splitParts, List.foldr_cons, ← splitParts]
    split
    · simp
    · split <;> simp

theorem splitParts_cons (sep : Char → Bool) (c : Char) (s : List Char) :
    splitParts sep (c :: s) =
      if sep c then [] :: splitParts sep s
      else (c :: (splitParts sep s).headD []) :: (splitParts sep s).tail := by
  have h := splitParts_ne_nil sep s
  unfold splitParts at h ⊢
  rw [List.foldr_cons]
  split
  · rfl
  · split <;> simp_all

/-- A character that separates nothing ends the last part. -/
theorem splitParts_append_singleton (sep : Char → Bool) (s : List Char) {c : Char} (h : sep c = false) :
    ∃ parts part, splitParts sep (s ++ [c]) = parts ++ [part ++ [c]] := by
  induction s with
  | nil => exact ⟨[], [], by simp [splitParts, h]⟩
  | cons d s ih =>
    obtain ⟨parts, part, ih⟩ := ih
    rw [List.cons_append, splitParts_cons, ih]
    split
    · exact ⟨[] :: parts, part, rfl⟩
    · cases parts with
      | nil => exact ⟨[], d :: part, rfl⟩
      | cons first parts => exact ⟨(d :: first) :: parts, part, rfl⟩

/-- The characters of the parts are those of the text that separate nothing. -/
theorem mem_splitParts (sep : Char → Bool) (s : List Char) (c : Char) :
    (∃ part ∈ splitParts sep s, c ∈ part) ↔ c ∈ s ∧ sep c = false := by
  induction s with
  | nil => simp [splitParts]
  | cons d s ih =>
    have h := splitParts_ne_nil sep s
    rw [splitParts_cons, List.mem_cons]
    cases hs : splitParts sep s with
    | nil => exact absurd hs h
    | cons p ps =>
      rw [hs] at ih
      simp only [List.mem_cons, exists_eq_or_imp] at ih
      cases hd : sep d with
      | true =>
        simp only [if_true, List.mem_cons, exists_eq_or_imp, List.not_mem_nil, false_or, ih]
        constructor
        · rintro ⟨hc, hsep⟩
          exact ⟨.inr hc, hsep⟩
        · rintro ⟨rfl | hc, hsep⟩
          · simp [hd] at hsep
          · exact ⟨hc, hsep⟩
      | false =>
        simp only [Bool.false_eq_true, if_false, List.headD_cons, List.tail_cons, List.mem_cons, exists_eq_or_imp,
          or_assoc, ih]
        constructor
        · rintro (rfl | ⟨hc, hsep⟩)
          · exact ⟨.inl rfl, hd⟩
          · exact ⟨.inr hc, hsep⟩
        · rintro ⟨rfl | hc, hsep⟩
          · exact .inl rfl
          · exact .inr ⟨hc, hsep⟩

end Text

namespace Path

@[ext] theorem ext {p q : Path} (h : p.text = q.text) : p = q := by
  cases p
  cases q
  exact congrArg Path.mk h

/-! ## Names -/

/-- So many slashes. -/
def slashes : Nat → String
  | 0 => ""
  | n + 1 => "/" ++ slashes n

theorem toList_slashes (n : Nat) : (slashes n).toList = List.replicate n '/' := by
  induction n with
  | zero => rfl
  | succ n ih => simp [slashes, ih, List.replicate_succ]

theorem utf8ByteSize_slashes (n : Nat) : (slashes n).utf8ByteSize = n := by
  induction n with
  | zero => rfl
  | succ n ih =>
    rw [slashes, String.utf8ByteSize_append, ih, Nat.add_comm]
    rfl

theorem names_slashes (n : Nat) (s : List Char) : names (List.replicate n '/' ++ s) = names s := by
  induction n with
  | zero => rfl
  | succ n ih =>
    rw [List.replicate_succ, List.cons_append, names, Text.splitParts_cons]
    simpa [names] using ih

/-- Slashes in front of an absolute path make no difference. -/
theorem components_slashes (n : Nat) {p : Path} (h : p.isAbsolute = true) :
    (Path.mk (slashes n ++ p.text)).components = p.components := by
  have hhead : p.text.toList.head? = some '/' := by simpa [isAbsolute] using h
  have ha : (Path.mk (slashes n ++ p.text)).isAbsolute = true := by
    cases n <;> simp [isAbsolute, toList_slashes, hhead, List.replicate_succ]
  simp only [components, ha, h, if_true, String.toList_append, toList_slashes, names_slashes]

/-- The names of a path that count: all but the dots. -/
def realNames (p : Path) : List String := (names p.text.toList).filter (· ≠ ".")

theorem componentOf_injective : Function.Injective componentOf := by
  intro a b h
  simp only [componentOf] at h
  split at h <;> split at h <;> simp_all

/-- What stands in front of the names of a path. -/
def lead (p : Path) : List Component :=
  if p.isAbsolute then [.root] else if (names p.text.toList).head? = some "." then [.here] else []

theorem components_eq (p : Path) : p.components = p.lead ++ p.realNames.map componentOf := by
  simp only [components, lead, realNames]
  split
  · rfl
  · split <;> rfl

theorem lead_cases (p : Path) :
    p.isAbsolute = true ∧ p.lead = [.root] ∨ p.isAbsolute = false ∧ (p.lead = [.here] ∨ p.lead = []) := by
  cases h : p.isAbsolute
  · by_cases hd : (names p.text.toList).head? = some "." <;> simp [lead, h, hd]
  · simp [lead, h]

theorem head?_map_componentOf (l : List String) :
    (l.map componentOf).head? ≠ some .root ∧ (l.map componentOf).head? ≠ some .here := by
  cases l with
  | nil => simp
  | cons n l => simp only [List.map_cons, List.head?_cons, componentOf]; split <;> simp

/-- Equal paths start alike and have the same names. -/
theorem names_of_components {p q : Path} (h : p.components = q.components) :
    p.isAbsolute = q.isAbsolute ∧ p.realNames = q.realNames := by
  rw [components_eq, components_eq] at h
  have hp := head?_map_componentOf p.realNames
  have hq := head?_map_componentOf q.realNames
  have inj := componentOf_injective.list_map
  rcases p.lead_cases with ⟨ap, lp⟩ | ⟨ap, lp | lp⟩ <;> rcases q.lead_cases with ⟨aq, lq⟩ | ⟨aq, lq | lq⟩ <;>
    rw [lp, lq] at h
  · exact ⟨by rw [ap, aq], inj (List.cons.inj h).2⟩
  · cases (List.cons.inj h).1
  · exact absurd (congrArg List.head? h).symm hq.1
  · cases (List.cons.inj h).1
  · exact ⟨by rw [ap, aq], inj (List.cons.inj h).2⟩
  · exact absurd (congrArg List.head? h).symm hq.2
  · exact absurd (congrArg List.head? h) hp.1
  · exact absurd (congrArg List.head? h) hp.2
  · exact ⟨by rw [ap, aq], inj h⟩

end Path

end TemplateDebug
