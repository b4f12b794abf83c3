import TemplateDebug.Proofs.Path.Spelling
/-!
# Spellings on a disk

Every spelling of a path that can name a file leads to the same file, on every disk: a dot in the middle asks for
nothing that the name after it does not ask for too. So what a disk tells about one spelling of a file holds for all
of them.
-/

namespace TemplateDebug

namespace Disk

/-! ## Dots on the way -/

variable {root node : Node} {jump : List (String × Node) → List String → Except FileError Place} {links : Nat}
  {above : List (String × Node)} {before after found : List String}

theorem walk_dot (h : after ≠ [])
    (hjump : ∀ above before, jump above (before ++ "." :: after) = jump above (before ++ after)) :
    walk root true jump above (before ++ "." :: after) = walk root true jump above (before ++ after) := by
  induction before generalizing above with
  | nil =>
    -- the dot only asks for a directory, and so does the name after it
    obtain ⟨name, rest, rfl⟩ := List.exists_cons_of_ne_nil h
    simp only [List.nil_append]
    rw [walk]
    split
    · simp
    · rename_i hd
      rw [walk]
      split
      · rename_i hd'
        exact absurd hd' (hd _)
      · rfl
  | cons name before ih =>
    have hne : ∀ l : List String, l ≠ [] → (before ++ l).isEmpty = false := by
      intro l hl
      cases before <;> cases l <;> simp_all
    simp only [List.cons_append]
    rw [walk, walk]
    simp only [hne _ h, hne ("." :: after) (List.cons_ne_nil _ _), Bool.false_and, Bool.false_eq_true, if_false, ih,
      ← List.append_assoc, hjump]

/-- A dot with a name after it can be left out. -/
theorem descend_dot (h : after ≠ []) :
    descend root true links above (before ++ "." :: after) = descend root true links above (before ++ after) := by
  induction links generalizing above before with
  | zero => exact walk_dot h fun _ _ => rfl
  | succ links ih => exact walk_dot h fun _ _ => ih

/-- On the way to a file, dots can be left out. -/
theorem descend_filter (before : List String) {names : List String} (h : names.getLast? ≠ some ".") :
    descend root true links above (before ++ names) =
      descend root true links above (before ++ names.filter (· ≠ ".")) := by
  induction names generalizing before with
  | nil => rfl
  | cons name rest ih =>
    have hr : rest.getLast? ≠ some "." := by
      cases rest with
      | nil => simp
      | cons r rs => simpa [List.getLast?_cons_cons] using h
    by_cases hn : name = "."
    · subst hn
      have hne : rest ≠ [] := by
        rintro rfl
        simp at h
      rw [descend_dot hne, ih _ hr]
      simp
    · have hc : before ++ name :: rest = (before ++ [name]) ++ rest := by simp
      rw [hc, ih _ hr]
      simp [hn]

theorem walk_final_dot
    (hjump : ∀ above before, jump above (before ++ ["."]) = .ok (.found found node) → ∃ entries, node = .dir entries)
    (h : walk root true jump above (before ++ ["."]) = .ok (.found found node)) : ∃ entries, node = .dir entries := by
  induction before generalizing above with
  | nil =>
    rw [List.nil_append, walk] at h
    split at h
    · rename_i entries hd
      rw [if_pos rfl, walk, hd] at h
      cases h
      exact ⟨entries, rfl⟩
    · cases h
  | cons name before ih =>
    rw [List.cons_append, walk] at h
    have hne : (before ++ ["."]).isEmpty = false := by cases before <;> rfl
    simp only [hne, Bool.false_and, Bool.false_eq_true, if_false] at h
    split at h
    · split at h
      · exact ih h
      · split at h
        · exact ih h
        · split at h
          · cases h
          · split at h
            · cases h
            · -- a link: the look-up starts again, with the dot still at the end
              rw [← List.append_assoc] at h
              exact hjump _ _ h
            · exact ih h
    · cases h

/-- A dot at the end asks for a directory. -/
theorem descend_final_dot (h : descend root true links above (before ++ ["."]) = .ok (.found found node)) :
    ∃ entries, node = .dir entries := by
  induction links generalizing above before with
  | zero => exact walk_final_dot (fun _ _ h => by cases h) h
  | succ links ih => exact walk_final_dot (fun _ _ h => ih h) h

end Disk

/-! ## Spellings that can name a file -/

/-- The spelling can name a file: it is not too long for the file system and ends in a name. -/
def Path.NamesFile (p : Path) : Prop :=
  p.text.utf8ByteSize ≤ 4095 ∧ (Disk.steps p.text).getLast? ≠ some "."

namespace Path

variable {p q : Path}

/-- A spelling that can name a file has no slash at its end. -/
theorem NamesFile.steps_eq (h : p.NamesFile) : Disk.steps p.text = names p.text.toList := by
  have hl := h.2
  unfold Disk.steps at hl ⊢
  split
  · rename_i hs
    simp [hs] at hl
  · simp

theorem NamesFile.getLast?_ne (h : p.NamesFile) : (names p.text.toList).getLast? ≠ some "." := by
  rw [← h.steps_eq]
  exact h.2

/-- Characters other than the slash are in a text when they are in its names. -/
theorem mem_names {s : List Char} {c : Char} (hc : c ≠ '/') :
    (∃ n ∈ names s, c ∈ n.toList) ↔ c ∈ s := by
  have h := Text.mem_splitParts (fun c => decide (c = '/')) s c
  simp only [hc, decide_false, and_true] at h
  rw [← h]
  simp only [names, List.mem_map, List.mem_filter]
  constructor
  · rintro ⟨_, ⟨part, ⟨hp, -⟩, rfl⟩, hm⟩
    exact ⟨part, hp, by simpa using hm⟩
  · rintro ⟨part, hp, hm⟩
    refine ⟨_, ⟨part, ⟨hp, ?_⟩, rfl⟩, by simpa using hm⟩
    cases part with
    | nil => cases hm
    | cons => rfl

theorem mem_realNames {c : Char} (hc : c ≠ '/') (hd : c ≠ '.') :
    (∃ n ∈ p.realNames, c ∈ n.toList) ↔ c ∈ p.text.toList := by
  rw [← mem_names hc]
  simp only [realNames, List.mem_filter, ne_eq, decide_not, Bool.not_eq_true', decide_eq_false_iff_not]
  constructor
  · rintro ⟨n, ⟨hn, -⟩, hm⟩
    exact ⟨n, hn, hm⟩
  · rintro ⟨n, hn, hm⟩
    refine ⟨n, ⟨hn, ?_⟩, hm⟩
    rintro rfl
    simp [hd] at hm

/-- Without names there is only the empty text. -/
theorem NamesFile.isEmpty_iff (h : p.NamesFile) : p.text.isEmpty = true ↔ p.realNames = [] := by
  have hl := h.getLast?_ne
  have hs := h.steps_eq
  constructor
  · intro he
    have : p.text = "" := by simpa using he
    simp [realNames, names, this, Text.splitParts]
  · intro he
    -- the last name is real, so there is no name at all, and no slash either, which would stand at the end
    have hn : names p.text.toList = [] := by
      rcases List.eq_nil_or_concat (names p.text.toList) with hn | ⟨l, n, hn⟩
      · exact hn
      · rw [hn] at hl
        have : n ∈ p.realNames := by
          simp only [realNames, List.mem_filter, hn]
          refine ⟨by simp, ?_⟩
          simpa using hl
        simp [he] at this
    have hall : ∀ c ∈ p.text.toList, c = '/' := by
      intro c hc
      by_contra hne
      obtain ⟨n, hm, -⟩ := (mem_names hne).2 hc
      simp [hn] at hm
    rcases List.eq_nil_or_concat p.text.toList with ht | ⟨l, c, ht⟩
    · simpa using ht
    · have hc := hall c (by simp [ht])
      simp [Disk.steps, ht, hc] at hs

end Path

namespace Disk

variable {disk : Disk} {p q : Path}

/-- What leads to a file is spelled as a file is. -/
theorem namesFile_of_node {f : RegularFile} (h : disk.node p = .ok (.file f)) : p.NamesFile := by
  unfold node at h
  split at h
  · rename_i names n hl
    unfold lookup at hl
    split at hl
    · cases hl
    · split at hl
      · cases hl
      · split at hl
        · cases hl
        · rename_i hlen
          refine ⟨Nat.not_lt.1 hlen, fun hdot => ?_⟩
          obtain ⟨before, hb⟩ := List.getLast?_eq_some_iff.1 hdot
          rw [hb] at hl
          obtain ⟨entries, rfl⟩ := descend_final_dot hl
          cases h
  · cases h
  · cases h

/-- The spellings of a path that can name a file lead to the same node. -/
theorem node_congr (h : p.components = q.components) (hp : p.NamesFile) (hq : q.NamesFile) :
    disk.node p = disk.node q := by
  obtain ⟨ha, hn⟩ := Path.names_of_components h
  have he : p.text.isEmpty = q.text.isEmpty := by
    rw [Bool.eq_iff_iff, hp.isEmpty_iff, hq.isEmpty_iff, hn]
  have h0 : p.text.toList.contains (Char.ofNat 0) = q.text.toList.contains (Char.ofNat 0) := by
    rw [Bool.eq_iff_iff]
    simp only [List.contains_iff_mem]
    rw [← Path.mem_realNames (by decide) (by decide), hn, Path.mem_realNames (by decide) (by decide)]
  have hd : ∀ {r : Path}, r.NamesFile → ∀ above,
      descend disk.root true linkLimit above (steps r.text) = descend disk.root true linkLimit above r.realNames := by
    intro r hr above
    rw [hr.steps_eq]
    exact descend_filter [] hr.getLast?_ne
  have hl : disk.lookup true p = disk.lookup true q := by
    simp only [lookup, he, h0, ha, hd hp, hd hq, hn, Nat.not_lt.2 hp.1, Nat.not_lt.2 hq.1]
  simp only [node, hl]

end Disk

end TemplateDebug
