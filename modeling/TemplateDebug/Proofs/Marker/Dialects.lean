import TemplateDebug.Marker.Parser
import TemplateDebug.Proofs.Marker.Patterns
/-!
# One dialect for a line

The patterns have no line in common, and a line of any of them is a comment. So neither the order in which the dialects
are tried nor the look for a comment before has a say in the markers of a text.
-/

namespace TemplateDebug

namespace Dialect

variable {s line : List Char} {d e : Dialect}

theorem mem_all : d ∈ all := by cases d <;> decide

/-! ## The dialect of a line -/

/-- A line number and a quoted reference stand at the front. -/
def hasReference (s : List Char) : Bool := ((lineNumber? s).bind fun r => quotedRef? r.2).isSome

/-- The one dialect that may read the line: what opens the comment and what stands in it tell. -/
def dialectOf (line : List Char) : Dialect :=
  match blockComment? line with
  | some s => if hasReference s then quotedBlock else bare
  | none => match lineComment? line with
    | some s => if s.head? = some '/' then tagPosition else if hasReference s then quotedLine else bare
    | none => bare

/-- A line number starts with a letter. -/
theorem head?_ne_of_lineNumber? (h : (lineNumber? s).isSome) : s.head? ≠ some '/' := by
  intro hslash
  obtain ⟨t, rfl⟩ := List.head?_eq_some_iff.1 hslash
  have hword : Text.dropWord? "line".toList ('/' :: t) = none := rfl
  rw [lineNumber?, hword] at h
  cases h

theorem lineNumber?_isSome_of_hasReference (h : hasReference s = true) : (lineNumber? s).isSome := by
  unfold hasReference at h
  cases hnumber : lineNumber? s with
  | none => simp [hnumber] at h
  | some r => rfl

/-- A reference starts with a mark or a quote, but for blanks. -/
theorem quotedRef?_eq_none (h : ∀ c ∈ (Text.dropBlanks s).head?, c ∉ [',', ';', ':', '"', '\'']) :
    quotedRef? s = none := by
  have hdrop : Text.dropBlanks (Text.dropBlanks s) = Text.dropBlanks s := List.dropWhile_idempotent Text.isBlank s
  unfold quotedRef?
  generalize Text.dropBlanks s = t at h hdrop ⊢
  cases t with
  | nil => rfl
  | cons c t =>
    have hc : c ∉ [',', ';', ':', '"', '\''] := h c rfl
    have hmark : dropMark [',', ';', ':'] (c :: t) = c :: t := by
      rw [dropMark, if_neg]
      simp at hc ⊢
      tauto
    rw [hmark, hdrop]
    split
    · rename_i heq
      cases heq
      exact absurd (by decide) hc
    · rename_i heq
      cases heq
      exact absurd (by decide) hc
    · rfl

theorem hasReference_of_readQuoted {after : List Char → Bool} (h : (readQuoted after s).isSome) :
    hasReference s = true := by
  unfold readQuoted at h
  split at h
  · cases h
  · rename_i hnumber
    split at h
    · rename_i hquoted
      simp [hasReference, hnumber, hquoted]
    · cases h

theorem not_hasReference_of_readBareLine (h : (readBareLine s).isSome) :
    (lineNumber? s).isSome ∧ hasReference s = false := by
  unfold readBareLine at h
  split at h
  · rename_i digits rest hnumber
    split at h
    · rename_i hempty
      have hnone : quotedRef? rest = none := quotedRef?_eq_none (by simp [List.isEmpty_iff.1 hempty])
      simp [hasReference, hnumber, hnone]
    · cases h
  · cases h

theorem not_hasReference_of_readBareBlock (h : (readBareBlock s).isSome) : hasReference s = false := by
  unfold readBareBlock at h
  split at h
  · rename_i digits rest hnumber
    have hnone : quotedRef? rest = none := by
      apply quotedRef?_eq_none
      split at h
      · rename_i hend
        unfold blockEnd? at hend
        split at hend
        · rename_i hstar
          simp [hstar]
        · cases hend
      · cases h
    simp [hasReference, hnumber, hnone]
  · cases h

/-- A dialect that reads a line is the dialect of the line. -/
theorem eq_dialectOf (h : (d.read? line).isSome) : d = dialectOf line := by
  unfold dialectOf
  cases hblock : blockComment? line with
  | some s =>
    have hline := lineComment?_eq_none_of_blockComment? hblock
    cases d with
    | quotedLine => simp [read?, hline] at h
    | quotedBlock =>
      simp only [read?, hblock, Option.bind_some] at h
      simp [hasReference_of_readQuoted h]
    | tagPosition => simp [read?, hline] at h
    | bare =>
      simp only [read?, hline, hblock, Option.bind_some] at h
      simp [not_hasReference_of_readBareBlock h]
  | none =>
    cases hline : lineComment? line with
    | none => cases d <;> simp [read?, hblock, hline] at h
    | some s =>
      cases d with
      | quotedLine =>
        simp only [read?, hline, Option.bind_some] at h
        have href := hasReference_of_readQuoted h
        simp [href, head?_ne_of_lineNumber? (lineNumber?_isSome_of_hasReference href)]
      | quotedBlock => simp [read?, hblock] at h
      | tagPosition =>
        simp only [read?, hline, Option.bind_some] at h
        unfold readPosition at h
        split at h
        · rfl
        · cases h
      | bare =>
        simp only [read?, hline] at h
        obtain ⟨hnumber, href⟩ := not_hasReference_of_readBareLine h
        simp [href, head?_ne_of_lineNumber? hnumber]

/-! ## Comments -/

/-- A dialect reads comments only. -/
theorem comment_of_read? (h : (d.read? line).isSome) : (lineComment? line).isSome ∨ (blockComment? line).isSome := by
  cases hline : lineComment? line with
  | some s => exact .inl rfl
  | none =>
    right
    cases hblock : blockComment? line with
    | some s => rfl
    | none => cases d <;> simp [read?, hline, hblock] at h

end Dialect

namespace Marker

variable {line : List Char} {d e : Dialect}

/-- The look for a comment finds its first two characters wherever they stand. -/
theorem mayHoldMarker_iff : mayHoldMarker line = true ↔ ['/', '/'] <:+: line ∨ ['/', '*'] <:+: line := by
  fun_induction mayHoldMarker line with
  | case1 s => simp [List.infix_cons_iff]
  | case2 s => simp [List.infix_cons_iff]
  | case3 c s hline hblock ih =>
    have hfirst : ∀ d, (∀ t, c = '/' → s = d :: t → False) → ¬ ['/', d] <+: c :: s := by
      rintro d hno ⟨t, heq⟩
      cases heq
      exact hno t rfl rfl
    rw [ih, List.infix_cons_iff, List.infix_cons_iff]
    simp only [hfirst '/' hline, hfirst '*' hblock, false_or]
  | case4 => simp

theorem mayHoldMarker_of_read? (h : (d.read? line).isSome) : mayHoldMarker line = true := by
  have hpart : ∀ c t, Text.dropBlanks line = '/' :: c :: t → ['/', c] <:+: line := by
    intro c t heq
    have hsuffix : Text.dropBlanks line <:+ line := List.dropWhile_suffix Text.isBlank
    rw [heq] at hsuffix
    exact List.IsInfix.trans ⟨[], t, rfl⟩ hsuffix.isInfix
  rw [mayHoldMarker_iff]
  rcases Dialect.comment_of_read? h with hline | hblock
  · left
    unfold Dialect.lineComment? at hline
    split at hline
    · rename_i heq
      exact hpart _ _ heq
    · cases hline
  · right
    unfold Dialect.blockComment? at hblock
    split at hblock
    · rename_i heq
      exact hpart _ _ heq
    · cases hblock

/-! ## Parsers -/

/-- The marker that a line holds when the dialects are tried in this order, after the look for a comment or without. -/
def ofLineIn? (prefiltered : Bool) (order : List Dialect) (line : List Char) (number : Nat) : Option Marker :=
  if prefiltered && !mayHoldMarker line then none
  else (order.findSome? (·.read? line)).bind fun r => (lineNumber? r.digits).map fun n =>
    { compiledLine := number, templateLine := n, templateRef := r.templateRef.map String.ofList }

/-- The markers of a text when the dialects are tried in this order, after the look for a comment or without. -/
def parseIn (prefiltered : Bool) (order : List Dialect) (text : String) : Array Marker :=
  ((((Text.lines text.toList).take lastLine).zipIdx 1).filterMap fun l => ofLineIn? prefiltered order l.1 l.2).toArray

/-- Whatever the order, the dialect of the line decides. -/
theorem findSome?_read? {order : List Dialect} (hall : ∀ d, d ∈ order) :
    order.findSome? (·.read? line) = (Dialect.dialectOf line).read? line := by
  cases hfound : order.findSome? (·.read? line) with
  | none => exact (List.findSome?_eq_none_iff.1 hfound _ (hall _)).symm
  | some r =>
    obtain ⟨d, -, hread⟩ := List.exists_of_findSome?_eq_some hfound
    have hdialect : d = Dialect.dialectOf line := Dialect.eq_dialectOf (by simp [hread])
    rw [← hdialect, hread]

theorem ofLineIn?_eq {prefiltered : Bool} {order : List Dialect} {number : Nat} (hall : ∀ d, d ∈ order) :
    ofLineIn? prefiltered order line number = ofLine? line number := by
  rw [ofLineIn?, ofLine?, reading?, findSome?_read? hall, findSome?_read? fun _ => Dialect.mem_all]
  cases hmay : mayHoldMarker line with
  | true => simp
  | false =>
    have hnone : (Dialect.dialectOf line).read? line = none := by
      by_contra hread
      have := mayHoldMarker_of_read? (Option.isSome_iff_ne_none.2 hread)
      simp [hmay] at this
    simp [hnone]

/-- The look for a comment has no say. -/
theorem ofLine?_eq (line : List Char) (number : Nat) : ofLine? line number =
    (reading? line).bind fun r => (lineNumber? r.digits).map fun n =>
      { compiledLine := number, templateLine := n, templateRef := r.templateRef.map String.ofList } :=
  (@ofLineIn?_eq line false Dialect.all number fun _ => Dialect.mem_all).symm

/-- What a dialect reads is what the line says. -/
theorem reading?_of_read? {r : Dialect.Reading} (h : d.read? line = some r) : reading? line = some r := by
  have hdialect : d = Dialect.dialectOf line := Dialect.eq_dialectOf (by rw [h]; rfl)
  rw [reading?, findSome?_read? fun _ => Dialect.mem_all, ← hdialect, h]

/-- A dialect reads the lines of its pattern, a line is of one pattern at most, and a line of a pattern holds the first
two characters of a comment. The markers of a text are the same in whatever order the dialects are tried, and without
the look for a comment. -/
theorem patterns_disjoint (line : List Char) (text : String) (prefiltered : Bool) {order : List Dialect}
    (horder : order.Perm Dialect.all) :
    (∀ d : Dialect, (d.read? line).isSome ↔ line ∈ d.pattern) ∧
      (∀ d e : Dialect, line ∈ d.pattern → line ∈ e.pattern → d = e) ∧
      (∀ d : Dialect, line ∈ d.pattern → ['/', '/'] <:+: line ∨ ['/', '*'] <:+: line) ∧
      parseIn prefiltered order text = parse text := by
  refine ⟨fun d => Dialect.read?_isSome_iff, fun d e hd he => ?_, fun d hd => ?_, ?_⟩
  · rw [Dialect.eq_dialectOf (Dialect.read?_isSome_iff.2 hd), ← Dialect.eq_dialectOf (Dialect.read?_isSome_iff.2 he)]
  · exact mayHoldMarker_iff.1 (mayHoldMarker_of_read? (Dialect.read?_isSome_iff.2 hd))
  · have hall : ∀ d, d ∈ order := fun d => horder.mem_iff.2 Dialect.mem_all
    simp only [parseIn, parse, parseList, ofLineIn?_eq hall]

/-- The dialects tried from the last to the first, without a look for a comment. -/
theorem patterns_disjoint_reversed :
    "// line 5 \"/a.jsp\"".toList ∈ Dialect.quotedLine.pattern ∧
      (∀ e : Dialect, "// line 5 \"/a.jsp\"".toList ∈ e.pattern → Dialect.quotedLine = e) ∧
      parseIn false Dialect.all.reverse "// line 2\n// line 5 \"/a.jsp\"\n" =
        #[⟨1, 2, none⟩, ⟨2, 5, some "/a.jsp"⟩] := by
  obtain ⟨hread, hone, -, hparse⟩ := patterns_disjoint "// line 5 \"/a.jsp\"".toList
    "// line 2\n// line 5 \"/a.jsp\"\n" false (List.reverse_perm Dialect.all)
  have hmem := (hread .quotedLine).1 (by decide +kernel)
  exact ⟨hmem, fun e => hone _ e hmem, hparse.trans (by decide +kernel)⟩

end Marker

end TemplateDebug
