import TemplateDebug.Proofs.Marker.Dialects
import TemplateDebug.Proofs.Marker.Lines
import TemplateDebug.Proofs.Text.Blanks
/-!
# Markers and line ends

Blanks at the end of a line have no part in its marker. Each reader reads the same without them and leaves its rest
without them. A carriage return is a blank, so it makes no difference whether lines end in one before the line feed.
-/

namespace TemplateDebug

namespace Dialect

open Text

variable {marks : List Char} {quote : Char} {after : List Char → Bool}

/-! ## Parts of a marker -/

theorem lineComment?_dropFinalBlanks (s : List Char) :
    lineComment? (dropFinalBlanks s) = (lineComment? s).map dropFinalBlanks := by
  rw [lineComment?, lineComment?, dropBlanks_dropFinalBlanks]
  generalize dropBlanks s = t
  split
  · rename_i hslash
    obtain ⟨u, rfl, hnext⟩ := (dropFinalBlanks_eq_cons_iff (by decide)).1 hslash
    obtain ⟨v, rfl, rfl⟩ := (dropFinalBlanks_eq_cons_iff (by decide)).1 hnext
    exact congrArg some (dropBlanks_dropFinalBlanks v)
  · rename_i hno
    split
    · rename_i rest
      refine (hno (dropFinalBlanks rest) ?_).elim
      rw [dropFinalBlanks_cons_of_not (by decide), dropFinalBlanks_cons_of_not (by decide)]
    · rfl

theorem dropStars_dropFinalBlanks (s : List Char) :
    (dropFinalBlanks s).dropWhile (· = '*') = dropFinalBlanks (s.dropWhile (· = '*')) := by
  refine dropWhile_dropFinalBlanks (fun c hc => ?_) s
  rw [decide_eq_false_iff_not]
  rintro rfl
  exact absurd hc (by decide)

theorem blockComment?_dropFinalBlanks (s : List Char) :
    blockComment? (dropFinalBlanks s) = (blockComment? s).map dropFinalBlanks := by
  rw [blockComment?, blockComment?, dropBlanks_dropFinalBlanks]
  generalize dropBlanks s = t
  split
  · rename_i hslash
    obtain ⟨u, rfl, hnext⟩ := (dropFinalBlanks_eq_cons_iff (by decide)).1 hslash
    obtain ⟨v, rfl, rfl⟩ := (dropFinalBlanks_eq_cons_iff (by decide)).1 hnext
    rw [dropStars_dropFinalBlanks, dropBlanks_dropFinalBlanks]
    rfl
  · rename_i hno
    split
    · rename_i rest
      refine (hno (dropFinalBlanks rest) ?_).elim
      rw [dropFinalBlanks_cons_of_not (by decide), dropFinalBlanks_cons_of_not (by decide)]
    · rfl

theorem blockEnd?_dropFinalBlanks (s : List Char) :
    blockEnd? (dropFinalBlanks s) = (blockEnd? s).map dropFinalBlanks := by
  rw [blockEnd?, blockEnd?, dropBlanks_dropFinalBlanks]
  generalize dropBlanks s = t
  split
  · rename_i hstar
    obtain ⟨u, rfl, rfl⟩ := (dropFinalBlanks_eq_cons_iff (by decide)).1 hstar
    rw [dropStars_dropFinalBlanks]
    split
    · rename_i hslash
      obtain ⟨v, hv, rfl⟩ := (dropFinalBlanks_eq_cons_iff (by decide)).1 hslash
      simp [hv]
    · rename_i hno
      refine (Option.map_eq_none_iff.2 ?_).symm
      split
      · rename_i heq
        cases heq
        split
        · rename_i hslash
          exact (hno _ ((congrArg dropFinalBlanks hslash).trans (dropFinalBlanks_cons_of_not (by decide) _))).elim
        · rfl
      · rfl
  · rename_i hno
    split
    · rename_i rest
      exact (hno _ (dropFinalBlanks_cons_of_not (by decide) rest)).elim
    · rfl

theorem dropMark_dropFinalBlanks (hmarks : marks.all (!isBlank ·) = true) (s : List Char) :
    dropMark marks (dropFinalBlanks s) = dropFinalBlanks (dropMark marks s) := by
  cases s with
  | nil => rfl
  | cons c s =>
    cases hc : isBlank c with
    | false =>
      rw [dropFinalBlanks_cons_of_not hc, dropMark, dropMark]
      split
      · rfl
      · rw [dropFinalBlanks_cons_of_not hc]
    | true =>
      have hmark : marks.contains c = false := by
        rw [← Bool.not_eq_true]
        intro hmark
        exact Bool.false_ne_true ((eq_false_of_contains hmarks hmark).symm.trans hc)
      rw [dropMark, hmark, if_neg Bool.false_ne_true, dropFinalBlanks_cons]
      split
      · rfl
      · rw [dropMark, hmark, if_neg Bool.false_ne_true]

theorem digits?_dropFinalBlanks (s : List Char) :
    digits? (dropFinalBlanks s) = (digits? s).map fun r => (r.1, dropFinalBlanks r.2) := by
  have hdigit : ∀ c, isBlank c = true → isDigit c = false := fun c => isDigit_of_isBlank
  rw [digits?, digits?, takeWhile_dropFinalBlanks hdigit, dropWhile_dropFinalBlanks hdigit]
  cases s.takeWhile isDigit <;> rfl

theorem lineNumber?_dropFinalBlanks (s : List Char) :
    lineNumber? (dropFinalBlanks s) = (lineNumber? s).map fun r => (r.1, dropFinalBlanks r.2) := by
  rw [lineNumber?, lineNumber?, dropWord?_dropFinalBlanks (by decide)]
  cases dropWord? "line".toList s with
  | none => rfl
  | some t =>
    simp only [Option.map_some, Option.bind_some]
    rw [dropBlanks_dropFinalBlanks, dropMark_dropFinalBlanks (by decide), dropBlanks_dropFinalBlanks,
      digits?_dropFinalBlanks]

/-- A quote that is no blank is not among the blanks at the end. -/
theorem upTo?_dropFinalBlanks (hquote : isBlank quote = false) (s : List Char) :
    upTo? quote (dropFinalBlanks s) = (upTo? quote s).map fun r => (r.1, dropFinalBlanks r.2) := by
  cases h : upTo? quote s with
  | some r =>
    obtain ⟨rfl, hmany⟩ := upTo?_eq_some_iff.1 h
    exact upTo?_eq_some_iff.2 ⟨(dropFinalBlanks_append_cons r.1 hquote r.2).symm, hmany⟩
  | none =>
    rw [Option.map_none, Option.eq_none_iff_forall_not_mem]
    rintro ⟨ref, rest⟩ hr
    obtain ⟨happend, hmany⟩ := upTo?_eq_some_iff.1 hr
    obtain ⟨t, ht⟩ : dropFinalBlanks s <+: s := List.rdropWhile_prefix isBlank s
    rw [← happend, List.append_assoc] at ht
    cases h.symm.trans (upTo?_eq_some_iff.2 ⟨ht, hmany⟩)

theorem quotedRef?_dropFinalBlanks (s : List Char) :
    quotedRef? (dropFinalBlanks s) = (quotedRef? s).map fun r => (r.1, dropFinalBlanks r.2) := by
  rw [quotedRef?, quotedRef?, dropBlanks_dropFinalBlanks, dropMark_dropFinalBlanks (by decide),
    dropBlanks_dropFinalBlanks]
  generalize dropBlanks (dropMark [',', ';', ':'] (dropBlanks s)) = t
  split
  · rename_i hdouble
    obtain ⟨u, rfl, rfl⟩ := (dropFinalBlanks_eq_cons_iff (by decide)).1 hdouble
    exact upTo?_dropFinalBlanks (by decide) u
  · rename_i hsingle
    obtain ⟨u, rfl, rfl⟩ := (dropFinalBlanks_eq_cons_iff (by decide)).1 hsingle
    exact upTo?_dropFinalBlanks (by decide) u
  · rename_i hdouble hsingle
    split
    · rename_i rest
      exact (hdouble _ (dropFinalBlanks_cons_of_not (by decide) rest)).elim
    · rename_i rest
      exact (hsingle _ (dropFinalBlanks_cons_of_not (by decide) rest)).elim
    · rfl

theorem digits?_dropFinalBlanks_eq_some_iff {ds t : List Char} {c : Char} (hc : isBlank c = false) {s : List Char} :
    digits? (dropFinalBlanks s) = some (ds, c :: t) ↔ ∃ u, digits? s = some (ds, c :: u) ∧ dropFinalBlanks u = t := by
  rw [digits?_dropFinalBlanks, Option.map_eq_some_iff]
  constructor
  · rintro ⟨r, hdigits, heq⟩
    obtain ⟨hfst, hrest⟩ := Prod.mk.inj heq
    obtain ⟨u, hsnd, rfl⟩ := (dropFinalBlanks_eq_cons_iff hc).1 hrest
    exact ⟨u, hdigits.trans (congrArg some (Prod.ext hfst hsnd)), rfl⟩
  · rintro ⟨u, hdigits, rfl⟩
    exact ⟨_, hdigits, by rw [dropFinalBlanks_cons_of_not hc]⟩

theorem position?_dropFinalBlanks (s : List Char) : position? (dropFinalBlanks s) = position? s := by
  ext digits
  rw [position?_eq_some_iff, position?_eq_some_iff]
  constructor
  · rintro ⟨_, hopen, _, hfirst, column, _, hsecond⟩
    obtain ⟨t, rfl, rfl⟩ := (dropFinalBlanks_eq_cons_iff (by decide)).1 hopen
    obtain ⟨u, hline, rfl⟩ := (digits?_dropFinalBlanks_eq_some_iff (by decide)).1 hfirst
    rw [dropBlanks_dropFinalBlanks] at hsecond
    obtain ⟨v, hcolumn, -⟩ := (digits?_dropFinalBlanks_eq_some_iff (by decide)).1 hsecond
    exact ⟨t, rfl, u, hline, column, v, hcolumn⟩
  · rintro ⟨t, rfl, u, hline, column, v, hcolumn⟩
    refine ⟨_, dropFinalBlanks_cons_of_not (by decide) t, dropFinalBlanks u, ?_, column, dropFinalBlanks v, ?_⟩
    · exact (digits?_dropFinalBlanks_eq_some_iff (by decide)).2 ⟨u, hline, rfl⟩
    · rw [dropBlanks_dropFinalBlanks]
      exact (digits?_dropFinalBlanks_eq_some_iff (by decide)).2 ⟨v, hcolumn, rfl⟩

theorem findSome?_congr {α β : Type} {l : List α} {f g : α → Option β} (h : ∀ a ∈ l, f a = g a) :
    l.findSome? f = l.findSome? g := by
  rw [← Function.id_comp f, ← Function.id_comp g, ← List.findSome?_map, ← List.findSome?_map, List.map_congr_left h]

theorem placed?_dropFinalBlanks (s : List Char) : placed? (dropFinalBlanks s) = placed? s := by
  have hextension : ∀ e ∈ tagExtensions, e.toList.all (!isBlank ·) = true := by decide
  refine findSome?_congr fun e he => ?_
  rw [dropWord?_dropFinalBlanks (hextension e he)]
  cases hword : dropWord? e.toList s with
  | none => rfl
  | some rest =>
    simp only [Option.map_some, Option.bind_some, position?_dropFinalBlanks]
    cases hposition : position? rest with
    | none => rfl
    | some line =>
      -- the extension ends before the parenthesis, and so before the blanks
      obtain ⟨v, hv, rfl⟩ := Pattern.dropWord?_eq_some_iff.1 hword
      obtain ⟨t, rfl, -⟩ := position?_eq_some_iff.1 hposition
      have hlength : e.length = v.length := by rw [← String.length_toList, ← hv, List.length_map]
      rw [dropFinalBlanks_append_cons v (by decide), hlength, List.take_left, List.take_left]

theorem placedAfter?_dropFinalBlanks (s : List Char) : placedAfter? (dropFinalBlanks s) = placedAfter? s := by
  induction s with
  | nil => rfl
  | cons c s ih =>
    rw [dropFinalBlanks_cons, placedAfter?]
    cases hc : isBlank c with
    | true =>
      cases dropFinalBlanks s with
      | nil => rfl
      | cons d t => simp [placedAfter?, hc]
    | false => simp [placedAfter?, hc, placed?_dropFinalBlanks, ih]

/-! ## Dialects -/

theorem readQuoted_dropFinalBlanks (hafter : ∀ rest, after (dropFinalBlanks rest) = after rest) (s : List Char) :
    readQuoted after (dropFinalBlanks s) = readQuoted after s := by
  rw [readQuoted, readQuoted, lineNumber?_dropFinalBlanks]
  cases lineNumber? s with
  | none => rfl
  | some r =>
    simp only [Option.map_some, quotedRef?_dropFinalBlanks]
    cases quotedRef? r.2 with
    | none => rfl
    | some q => simp only [Option.map_some, hafter]

theorem readPosition_dropFinalBlanks (s : List Char) : readPosition (dropFinalBlanks s) = readPosition s := by
  unfold readPosition
  split
  · rename_i hslash
    obtain ⟨u, rfl, rfl⟩ := (dropFinalBlanks_eq_cons_iff (by decide)).1 hslash
    simp only [placedAfter?_dropFinalBlanks]
  · rename_i hno
    split
    · rename_i rest
      exact (hno _ (dropFinalBlanks_cons_of_not (by decide) rest)).elim
    · rfl

theorem readBareLine_dropFinalBlanks (s : List Char) : readBareLine (dropFinalBlanks s) = readBareLine s := by
  rw [readBareLine, readBareLine, lineNumber?_dropFinalBlanks]
  cases lineNumber? s with
  | none => rfl
  | some r => simp only [Option.map_some, isEmpty_dropBlanks_dropFinalBlanks]

theorem readBareBlock_dropFinalBlanks (s : List Char) : readBareBlock (dropFinalBlanks s) = readBareBlock s := by
  rw [readBareBlock, readBareBlock, lineNumber?_dropFinalBlanks]
  cases lineNumber? s with
  | none => rfl
  | some r =>
    simp only [Option.map_some, blockEnd?_dropFinalBlanks]
    cases blockEnd? r.2 with
    | none => rfl
    | some rest => simp only [Option.map_some, isEmpty_dropBlanks_dropFinalBlanks]

/-- A dialect reads the same without the blanks at the end of the line. -/
theorem read?_dropFinalBlanks (d : Dialect) (line : List Char) : d.read? (dropFinalBlanks line) = d.read? line := by
  unfold read?
  rw [lineComment?_dropFinalBlanks, blockComment?_dropFinalBlanks]
  cases d with
  | quotedLine => cases lineComment? line <;> simp [readQuoted_dropFinalBlanks]
  | quotedBlock => cases blockComment? line <;> simp [readQuoted_dropFinalBlanks, blockEnd?_dropFinalBlanks]
  | tagPosition => cases lineComment? line <;> simp [readPosition_dropFinalBlanks]
  | bare =>
    cases lineComment? line with
    | some s => simp [readBareLine_dropFinalBlanks]
    | none => cases blockComment? line <;> simp [readBareBlock_dropFinalBlanks]

end Dialect

namespace Marker

open Text

/-! ## Lines -/

theorem ofLine?_dropFinalBlanks (line : List Char) (number : Nat) :
    ofLine? (dropFinalBlanks line) number = ofLine? line number := by
  simp only [ofLine?_eq, reading?, Dialect.read?_dropFinalBlanks]

theorem ofLine?_content (l : RawLine) (number : Nat) : ofLine? l.content number = ofLine? l.chars number := by
  obtain ⟨chars, ended⟩ := l
  cases ended
  · rfl
  · change ofLine? (dropFinalReturn chars) number = ofLine? chars number
    rw [← ofLine?_dropFinalBlanks, dropFinalBlanks_dropFinalReturn, ofLine?_dropFinalBlanks]

theorem ofLines_content (ls : List RawLine) (number : Nat) :
    ofLines number (ls.map RawLine.content) = ofLines number (ls.map RawLine.chars) := by
  induction ls generalizing number with
  | nil => rfl
  | cons l ls ih => rw [List.map_cons, List.map_cons, ofLines_cons, ofLines_cons, ofLine?_content, ih]

/-- A carriage return at the end of a line may as well be a part of it. -/
theorem parseList_eq_chars (text : String) :
    parseList text = ofLines 1 (((rawLines text.toList).map RawLine.chars).take lastLine) := by
  rw [parseList_eq, lines, ← List.map_take, ← List.map_take, ofLines_content]

/-- A text has the same markers when a carriage return is put before every line feed. -/
theorem parse_withReturns (text : String) : parse (String.ofList (withReturns text.toList)) = parse text := by
  have hlist : parseList (String.ofList (withReturns text.toList)) = parseList text := by
    rw [parseList_eq, String.toList_ofList, lines_withReturns, parseList_eq_chars]
  simp only [parse, hlist]

end Marker

end TemplateDebug
