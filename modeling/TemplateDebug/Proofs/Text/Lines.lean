import TemplateDebug.Text.Lines
/-!
# Lines of a text

A text after whole lines adds its own lines to them. Where every line feed gets a carriage return before it, each line
keeps all its characters, also a carriage return that it ended with. Up to an empty line at the end, the lines are the
parts of the text between its line feeds.
-/

namespace TemplateDebug.Text

variable {s t : List Char} {c : Char}

theorem rawLines_cons (c : Char) (s : List Char) : rawLines (c :: s) =
    if c = '\n' then ⟨[], true⟩ :: rawLines s else RawLine.consFirst c (rawLines s) := rfl

theorem rawLines_ne_nil (h : s ≠ []) : rawLines s ≠ [] := by
  cases s with
  | nil => exact absurd rfl h
  | cons c s =>
    rw [rawLines_cons]
    split
    · exact List.cons_ne_nil _ _
    · cases rawLines s <;> exact List.cons_ne_nil _ _

/-! ## Whole lines -/

/-- The text has no line that is not ended. -/
def WholeLines (s : List Char) : Prop := s = [] ∨ s.getLast? = some '\n'

theorem WholeLines.of_cons (h : WholeLines (c :: s)) : WholeLines s := by
  cases s with
  | nil => exact .inl rfl
  | cons d s => exact .inr (h.resolve_left (List.cons_ne_nil _ _))

theorem RawLine.consFirst_append {ls : List RawLine} (h : ls ≠ []) (ls' : List RawLine) :
    RawLine.consFirst c (ls ++ ls') = RawLine.consFirst c ls ++ ls' := by
  cases ls with
  | nil => exact absurd rfl h
  | cons l ls => rfl

theorem rawLines_append (h : WholeLines s) (t : List Char) : rawLines (s ++ t) = rawLines s ++ rawLines t := by
  induction s with
  | nil => rfl
  | cons c s ih =>
    rw [List.cons_append, rawLines_cons, rawLines_cons, ih h.of_cons]
    split
    · rfl
    · rename_i hc
      have hs : s ≠ [] := by
        rintro rfl
        simp [WholeLines, hc] at h
      exact RawLine.consFirst_append (rawLines_ne_nil hs) _

theorem lines_append (h : WholeLines s) (t : List Char) : lines (s ++ t) = lines s ++ lines t := by
  rw [lines, rawLines_append h, List.map_append]
  rfl

/-! ## Carriage returns -/

/-- The text with a carriage return put before every line feed. -/
def withReturns (s : List Char) : List Char := s.flatMap fun c => if c = '\n' then ['\r', '\n'] else [c]

/-- The line with a carriage return put before its line feed. -/
def RawLine.withReturn (l : RawLine) : RawLine := if l.ended then ⟨l.chars ++ ['\r'], true⟩ else l

theorem withReturns_cons (c : Char) (s : List Char) :
    withReturns (c :: s) = (if c = '\n' then ['\r', '\n'] else [c]) ++ withReturns s := rfl

theorem RawLine.withReturn_cons (l : RawLine) :
    RawLine.withReturn ⟨c :: l.chars, l.ended⟩ = ⟨c :: l.withReturn.chars, l.withReturn.ended⟩ := by
  obtain ⟨chars, ended⟩ := l
  cases ended <;> rfl

theorem rawLines_withReturns (s : List Char) : rawLines (withReturns s) = (rawLines s).map RawLine.withReturn := by
  induction s with
  | nil => rfl
  | cons c s ih =>
    rw [withReturns_cons, rawLines_cons]
    split
    · rw [List.cons_append, List.cons_append, List.nil_append, rawLines_cons, rawLines_cons, ih]
      rfl
    · rename_i hc
      rw [List.singleton_append, rawLines_cons, if_neg hc, ih]
      cases rawLines s with
      | nil => rfl
      | cons l ls => simp [RawLine.consFirst, RawLine.withReturn_cons]

theorem dropFinalReturn_append_return (s : List Char) : dropFinalReturn (s ++ ['\r']) = s := by
  simp [dropFinalReturn]

theorem RawLine.content_withReturn (l : RawLine) : l.withReturn.content = l.chars := by
  obtain ⟨chars, ended⟩ := l
  cases ended
  · rfl
  · exact dropFinalReturn_append_return chars

/-- Every line keeps its characters. -/
theorem lines_withReturns (s : List Char) : lines (withReturns s) = (rawLines s).map RawLine.chars := by
  rw [lines, rawLines_withReturns, List.map_map]
  exact List.map_congr_left fun l _ => l.content_withReturn

/-! ## Parts between line feeds -/

/-- A line feed at the end is followed by an empty part that is no line. -/
theorem exists_splitOn_eq (s : List Char) :
    ∃ rest, s.splitOn '\n' = (rawLines s).map RawLine.chars ++ rest ∧ (rest = [] ∨ rest = [[]]) := by
  induction s with
  | nil => exact ⟨[[]], rfl, .inr rfl⟩
  | cons c s ih =>
    obtain ⟨rest, hsplit, hrest⟩ := ih
    rw [List.splitOn, List.splitOnP_cons_eq_if_modifyHead, rawLines_cons]
    rw [List.splitOn] at hsplit
    by_cases hc : c = '\n'
    · simp only [hc, beq_self_eq_true, if_true, hsplit]
      exact ⟨rest, rfl, hrest⟩
    · simp only [beq_iff_eq, hc, if_false, hsplit]
      cases hlines : rawLines s with
      | nil =>
        rw [hlines] at hsplit
        rcases hrest with rfl | rfl
        · exact absurd hsplit (List.splitOnP_ne_nil _ _)
        · exact ⟨[], rfl, .inl rfl⟩
      | cons l ls => exact ⟨rest, rfl, hrest⟩

end TemplateDebug.Text
