import Mathlib.Data.List.Sort
import TemplateDebug.Proofs.Marker.LineEnds
/-!
# Markers as written

A marker is written in a dialect with blanks, a mark and zeros at will. A dialect reads the number and the reference
that it was written with, whatever text the reference holds: a quoted one ends at the next quote of its kind, and the
one of a tag position at its first parenthesis. Where all other lines hold no comment, the markers of a text are those
that were written on its lines.
-/

open scoped Computability

namespace TemplateDebug

namespace Dialect

open Pattern Text

variable {n : Nat} {d : Dialect} {s t line ref : List Char} {Y : Language Char}

/-! ## Dialects as written -/

/-- The number in decimal, after any number of zeros. -/
def numeral (n : Nat) : Language Char := {s | ∃ zeros, s = List.replicate zeros '0' ++ Nat.toDigits 10 n}

/-- A reference at a tag position: a slash, text without blanks and opening parentheses, and an extension. -/
def tagReference : Language Char := only '/' * many (fun c => !isBlank c && c ≠ '(') * extension

/-- The lines on which a marker for this template line is written in a dialect. A bare marker has no reference, and all
others have one. -/
def rendering : Dialect → Nat → Option (List Char) → Language Char
  | quotedLine, n, some ref => lineOpening * numberedBy (numeral n) * referenceBy {ref} * ⊤
  | quotedBlock, n, some ref => blockOpening * numberedBy (numeral n) * referenceBy {ref} * blockEnding * ⊤
  | tagPosition, n, some ref => lineOpening * both {ref} tagReference * positionBy (numeral n) * ⊤
  | bare, n, none =>
    lineOpening * numberedBy (numeral n) * anyBlanks + blockOpening * numberedBy (numeral n) * blockEnding * anyBlanks
  | _, _, _ => 0

/-! ## Numbers -/

theorem isDigit_of_mem_numeral (h : s ∈ numeral n) {c : Char} (hc : c ∈ s) : c.isDigit = true := by
  obtain ⟨zeros, rfl⟩ := h
  rcases List.mem_append.1 hc with hzero | hdigit
  · rw [List.eq_of_mem_replicate hzero]
    decide
  · exact isDigit_of_mem_toDigits hdigit

theorem mem_many_isDigit_of_mem_numeral (s : List Char) (h : s ∈ numeral n) : s ∈ many isDigit := by
  refine mem_many_iff.2 ⟨?_, fun c hc => ?_⟩
  · obtain ⟨zeros, rfl⟩ := h
    exact List.append_ne_nil_of_right_ne_nil _ Nat.toDigits_ne_nil
  · rw [isDigit, isDigit_of_mem_numeral h hc, Bool.true_or]

/-! ## Numbers and quoted references -/

theorem mem_numberedBy_numeral_mul_iff (h : Avoids isDigit Y) :
    s ∈ numberedBy (numeral n) * Y ↔ ∃ r ∈ lineNumber? s, r.1 ∈ numeral n ∧ r.2 ∈ Y :=
  mem_numberedBy_mul_iff mem_many_isDigit_of_mem_numeral h

theorem mem_numberedBy_referenceBy_iff {after : List Char → Bool} (hafter : ∀ rest, after rest = true ↔ rest ∈ Y) :
    s ∈ numberedBy (numeral n) * (referenceBy {ref} * Y) ↔
      ∃ digits ∈ numeral n, readQuoted after s = some ⟨digits, some ref⟩ := by
  have href : ∀ q : List Char, q ∈ ({ref} : Language Char) ↔ q = ref := fun _ => Iff.rfl
  rw [mem_numberedBy_numeral_mul_iff isDigit_avoids_referenceBy_mul, readQuoted]
  cases lineNumber? s with
  | none => simp
  | some r =>
    simp only [Option.mem_some_iff, exists_eq_left', mem_referenceBy_mul_iff]
    cases quotedRef? r.2 with
    | none => simp
    | some q => by_cases h : after q.2 = true <;> simp [h, href, ← hafter]

theorem mem_numberedBy_anyBlanks_iff :
    s ∈ numberedBy (numeral n) * anyBlanks ↔ ∃ digits ∈ numeral n, readBareLine s = some ⟨digits, none⟩ := by
  rw [mem_numberedBy_numeral_mul_iff isDigit_avoids_anyBlanks, readBareLine]
  simp only [mem_anyBlanks_iff]
  cases lineNumber? s with
  | none => simp
  | some r => by_cases h : dropBlanks r.2 = [] <;> simp [h]

theorem mem_numberedBy_blockEnding_iff : s ∈ numberedBy (numeral n) * (blockEnding * anyBlanks) ↔
    ∃ digits ∈ numeral n, readBareBlock s = some ⟨digits, none⟩ := by
  rw [mem_numberedBy_numeral_mul_iff isDigit_avoids_blockEnding_mul, readBareBlock]
  simp only [mem_blockEnding_mul_iff, mem_anyBlanks_iff]
  cases lineNumber? s with
  | none => simp
  | some r =>
    simp only [Option.mem_some_iff, exists_eq_left']
    cases blockEnd? r.2 with
    | none => simp
    | some rest => by_cases h : dropBlanks rest = [] <;> simp [h]

/-! ## Tag positions -/

/-- The parenthesis matches itself only, and no extension has one. -/
theorem parenthesis_not_mem_of_mem_extension (h : s ∈ extension) : '(' ∉ s := by
  obtain ⟨e, he, hfold⟩ := mem_extension_iff.1 h
  have hall : ∀ e ∈ tagExtensions, '(' ∉ e.toList := by decide
  intro hmem
  have hmem : fold '(' ∈ s.map fold := List.mem_map_of_mem hmem
  rw [hfold] at hmem
  exact hall e he hmem

theorem mem_tagReference_iff : s ∈ tagReference ↔ ∃ name ext, name ≠ [] ∧
    (name.all fun c => !isBlank c && c ≠ '(') = true ∧ ext ∈ extension ∧ s = '/' :: (name ++ ext) := by
  rw [tagReference, mul_assoc, mem_only_mul_iff]
  constructor
  · rintro ⟨_, rfl, name, hname, ext, hext, rfl⟩
    obtain ⟨hne, hall⟩ := mem_many_iff.1 hname
    exact ⟨name, ext, hne, List.all_eq_true.2 hall, hext, rfl⟩
  · rintro ⟨name, ext, hne, hall, hext, rfl⟩
    exact ⟨name ++ ext, rfl, Language.append_mem_mul (mem_many_iff.2 ⟨hne, List.all_eq_true.1 hall⟩) hext⟩

/-- The first parenthesis stands at one place. -/
theorem eq_of_append_parenthesis {u v t' : List Char} (hu : '(' ∉ u) (hv : '(' ∉ v)
    (h : u ++ '(' :: t = v ++ '(' :: t') : u = v ∧ t = t' := by
  have hcut : ∀ w rest : List Char, '(' ∉ w → (w ++ '(' :: rest).takeWhile (· ≠ '(') = w ∧
      (w ++ '(' :: rest).dropWhile (· ≠ '(') = '(' :: rest := by
    intro w rest hw
    have hne : ∀ c ∈ w, decide (c ≠ '(') = true := fun c hc => decide_eq_true (ne_of_mem_of_not_mem hc hw)
    exact takeWhile_append_of_avoids hne (avoids_only_mul (by decide)) (cons_mem_only_mul.2 ⟨rfl, mem_top⟩)
  obtain ⟨htake, hdrop⟩ := hcut u t hu
  obtain ⟨htake', hdrop'⟩ := hcut v t' hv
  rw [h, htake'] at htake
  rw [h, hdrop'] at hdrop
  exact ⟨htake.symm, (List.cons.inj hdrop).2.symm⟩

theorem placed?_spec {e digits : List Char} (h : placed? s = some (e, digits)) :
    e ∈ extension ∧ ∃ rest, e ++ rest = s ∧ position? rest = some digits := by
  obtain ⟨word, hword, hplaced⟩ := List.exists_of_findSome?_eq_some h
  obtain ⟨rest, hdrop, hposition⟩ := Option.bind_eq_some_iff.1 hplaced
  obtain ⟨line, hline, heq⟩ := Option.map_eq_some_iff.1 hposition
  obtain ⟨v, hfold, rfl⟩ := dropWord?_eq_some_iff.1 hdrop
  obtain ⟨rfl, rfl⟩ := Prod.mk.inj heq
  have hlength : word.length = v.length := by rw [← String.length_toList, ← hfold, List.length_map]
  rw [hlength, List.take_left]
  exact ⟨mem_extension_iff.2 ⟨word, hword, hfold⟩, rest, rfl, hline⟩

theorem placedAfter?_spec {r digits : List Char} (h : placedAfter? s = some (r, digits)) :
    ∃ rest, r ++ rest = s ∧ position? rest = some digits := by
  induction s generalizing r with
  | nil => cases h
  | cons c s ih =>
    rw [placedAfter?] at h
    split at h
    · cases h
    · split at h
      · rename_i hplaced
        cases h
        obtain ⟨-, rest, rfl, hposition⟩ := placed?_spec hplaced
        exact ⟨rest, rfl, hposition⟩
      · obtain ⟨q, hq, heq⟩ := Option.map_eq_some_iff.1 h
        cases heq
        obtain ⟨rest, rfl, hposition⟩ := ih hq
        exact ⟨rest, rfl, hposition⟩

/-- An extension before the first parenthesis ends at it. -/
theorem placed?_append {e digits : List Char} (hs : '(' ∉ s) (h : placed? (s ++ '(' :: t) = some (e, digits)) :
    e = s ∧ position? ('(' :: t) = some digits := by
  obtain ⟨hext, rest, happend, hposition⟩ := placed?_spec h
  obtain ⟨u, rfl, -⟩ := position?_eq_some_iff.1 hposition
  obtain ⟨rfl, rfl⟩ := eq_of_append_parenthesis (parenthesis_not_mem_of_mem_extension hext) hs happend
  exact ⟨rfl, hposition⟩

/-- The shortest stretch is the whole one, since an extension within it has no parenthesis after it. -/
theorem placedAfter?_append {name ext digits : List Char} (hne : name ≠ [])
    (hname : (name.all fun c => !isBlank c && c ≠ '(') = true) (hext : ext ∈ extension)
    (hposition : position? ('(' :: t) = some digits) :
    placedAfter? (name ++ ext ++ '(' :: t) = some (name ++ ext, digits) := by
  induction name with
  | nil => exact absurd rfl hne
  | cons c name ih =>
    obtain ⟨hc, hname⟩ := Bool.and_eq_true_iff.1 hname
    have hblank : isBlank c = false := by simpa using (Bool.and_eq_true_iff.1 hc).1
    have hnot : '(' ∉ name ++ ext := by
      intro hmem
      rcases List.mem_append.1 hmem with hin | hin
      · simpa using List.all_eq_true.1 hname _ hin
      · exact parenthesis_not_mem_of_mem_extension hext hin
    rw [List.cons_append, List.cons_append, placedAfter?, hblank, if_neg Bool.false_ne_true]
    cases hplaced : placed? (name ++ ext ++ '(' :: t) with
    | some r =>
      obtain ⟨hwritten, hdigits⟩ := placed?_append hnot hplaced
      rw [hposition] at hdigits
      simp [hwritten, Option.some.inj hdigits]
    | none =>
      cases name with
      | nil =>
        have hmem : ext ++ '(' :: t ∈ extension * (position * ⊤) :=
          Language.append_mem_mul hext (mem_position_mul_top_iff.2 (by rw [hposition]; rfl))
        have hsome := placed?_isSome_iff.2 hmem
        rw [List.nil_append] at hplaced
        rw [hplaced] at hsome
        cases hsome
      | cons d name =>
        rw [ih (List.cons_ne_nil d name) hname]
        rfl

theorem mem_tagReference_mul_iff : s ∈ both {ref} tagReference * (positionBy (numeral n) * ⊤) ↔
    ref ∈ tagReference ∧ ∃ digits ∈ numeral n, readPosition s = some ⟨digits, some ref⟩ := by
  constructor
  · rintro ⟨_, ⟨rfl, hshape⟩, rest, hrest, rfl⟩
    refine ⟨hshape, ?_⟩
    obtain ⟨name, ext, hne, hname, hext, rfl⟩ := mem_tagReference_iff.1 hshape
    obtain ⟨digits, hposition, hdigits⟩ := (mem_positionBy_mul_top_iff mem_many_isDigit_of_mem_numeral).1 hrest
    obtain ⟨t, rfl, -⟩ := position?_eq_some_iff.1 hposition
    refine ⟨digits, hdigits, ?_⟩
    change (placedAfter? (name ++ ext ++ '(' :: t)).map _ = _
    rw [placedAfter?_append hne hname hext hposition]
    rfl
  · rintro ⟨hshape, digits, hdigits, hread⟩
    unfold readPosition at hread
    split at hread
    · obtain ⟨⟨r, number⟩, hplaced, heq⟩ := Option.map_eq_some_iff.1 hread
      cases heq
      obtain ⟨rest, rfl, hposition⟩ := placedAfter?_spec hplaced
      refine ⟨'/' :: r, ⟨rfl, hshape⟩, rest, ?_, rfl⟩
      exact (mem_positionBy_mul_top_iff mem_many_isDigit_of_mem_numeral).2 ⟨number, hposition, hdigits⟩
    · cases hread

theorem isBlank_avoids_tagReference_mul : Avoids isBlank (both {ref} tagReference * Y) := by
  rintro c s ⟨v, ⟨-, hshape⟩, rest, -, happend⟩
  obtain ⟨name, ext, -, -, -, rfl⟩ := mem_tagReference_iff.1 hshape
  cases happend
  decide

/-! ## Lines -/

theorem mem_rendering_quotedLine_iff : line ∈ quotedLine.rendering n (some ref) ↔
    ∃ digits ∈ numeral n, quotedLine.read? line = some ⟨digits, some ref⟩ := by
  change line ∈ lineOpening * numberedBy (numeral n) * referenceBy {ref} * ⊤ ↔ _
  rw [mul_assoc, mul_assoc, mem_lineOpening_mul_numberedBy_iff, read?]
  have hafter : ∀ rest : List Char, true = true ↔ rest ∈ (⊤ : Language Char) := by simp
  cases lineComment? line <;> simp [mem_numberedBy_referenceBy_iff hafter]

theorem mem_rendering_quotedBlock_iff : line ∈ quotedBlock.rendering n (some ref) ↔
    ∃ digits ∈ numeral n, quotedBlock.read? line = some ⟨digits, some ref⟩ := by
  change line ∈ blockOpening * numberedBy (numeral n) * referenceBy {ref} * blockEnding * ⊤ ↔ _
  rw [mul_assoc, mul_assoc, mul_assoc, mem_blockOpening_mul_numberedBy_iff, read?]
  cases blockComment? line <;> simp [mem_numberedBy_referenceBy_iff fun _ => isSome_blockEnd?_iff]

theorem mem_rendering_bare_iff : line ∈ bare.rendering n none ↔
    ∃ digits ∈ numeral n, bare.read? line = some ⟨digits, none⟩ := by
  change line ∈ lineOpening * numberedBy (numeral n) * anyBlanks +
    blockOpening * numberedBy (numeral n) * blockEnding * anyBlanks ↔ _
  simp only [mul_assoc]
  rw [Language.mem_add, mem_lineOpening_mul_numberedBy_iff, mem_blockOpening_mul_numberedBy_iff, read?]
  cases hcomment : blockComment? line with
  | none => cases lineComment? line <;> simp [mem_numberedBy_anyBlanks_iff]
  | some s =>
    have hnone := lineComment?_eq_none_of_blockComment? hcomment
    simp [hnone, mem_numberedBy_blockEnding_iff]

theorem mem_rendering_tagPosition_iff : line ∈ tagPosition.rendering n (some ref) ↔
    ref ∈ tagReference ∧ ∃ digits ∈ numeral n, tagPosition.read? line = some ⟨digits, some ref⟩ := by
  change line ∈ lineOpening * both {ref} tagReference * positionBy (numeral n) * ⊤ ↔ _
  rw [mul_assoc, mul_assoc, mem_lineOpening_mul_iff isBlank_avoids_tagReference_mul, read?]
  cases lineComment? line <;> simp [mem_tagReference_mul_iff]

/-- A line on which a marker is written is read with its number and its reference. -/
theorem read?_of_mem_rendering {ref : Option (List Char)} (h : line ∈ d.rendering n ref) :
    ∃ digits ∈ numeral n, d.read? line = some ⟨digits, ref⟩ := by
  cases ref with
  | none =>
    cases d with
    | bare => exact mem_rendering_bare_iff.1 h
    | quotedLine => exact h.elim
    | quotedBlock => exact h.elim
    | tagPosition => exact h.elim
  | some ref =>
    cases d with
    | quotedLine => exact mem_rendering_quotedLine_iff.1 h
    | quotedBlock => exact mem_rendering_quotedBlock_iff.1 h
    | tagPosition => exact (mem_rendering_tagPosition_iff.1 h).2
    | bare => exact h.elim

end Dialect

namespace Marker

variable {markers : Array Marker} {text : String} {m : Marker} {n : Nat} {d : Dialect} {line : List Char}

/-! ## The marker of a line -/

/-- Zeros in front do not change what digits spell. -/
theorem lineNumber?_of_mem_numeral {s : List Char} (h : s ∈ Dialect.numeral n) (hpos : 0 < n) (hlast : n ≤ lastLine) :
    lineNumber? s = some n := by
  have hdigits : s.all Char.isDigit = true := List.all_eq_true.2 fun c hc => Dialect.isDigit_of_mem_numeral h hc
  have hvalue : s.foldl (fun n c => n * 10 + (c.toNat - '0'.toNat)) 0 = n := by
    obtain ⟨zeros, rfl⟩ := h
    calc (List.replicate zeros '0' ++ Nat.toDigits 10 n).foldl (fun n c => n * 10 + (c.toNat - '0'.toNat)) 0
      _ = Nat.ofDigitChars 10 (List.replicate zeros '0' ++ Nat.toDigits 10 n) 0 := by
        simp only [Nat.ofDigitChars, Nat.mul_comm 10]
      _ = Nat.ofDigitChars 10 (Nat.toDigits 10 n) 0 := by
        rw [Nat.ofDigitChars_append, Nat.ofDigitChars_replicate_zero, Nat.mul_zero]
      _ = n := Nat.ofDigitChars_ten_toDigits
  simp only [lineNumber?, hdigits, hvalue, if_true, hpos, hlast, and_self]

/-- The marker that is written on a line is the marker that the line holds. -/
theorem ofLine?_of_mem_rendering {ref : Option (List Char)} (h : line ∈ d.rendering n ref) (hpos : 0 < n)
    (hlast : n ≤ lastLine) (number : Nat) : ofLine? line number = some ⟨number, n, ref.map String.ofList⟩ := by
  obtain ⟨digits, hdigits, hread⟩ := Dialect.read?_of_mem_rendering h
  rw [ofLine?_eq, reading?_of_read? hread, Option.bind_some,
    lineNumber?_of_mem_numeral hdigits hpos hlast, Option.map_some]

/-! ## The lines of a text -/

/-- The lines of a text and their numbers; after a line feed at the end of the text comes an empty one. -/
def numberedLines (text : String) : List (List Char × Nat) := (text.toList.splitOn '\n').zipIdx 1

/-- Lines that are joined by line feeds are numbered from one. -/
theorem numberedLines_intercalate {ls : List String} (hne : ls ≠ []) (h : ∀ l ∈ ls, '\n' ∉ l.toList) :
    numberedLines ("\n".intercalate ls) = (ls.map String.toList).zipIdx 1 := by
  have hlines : ∀ l ∈ ls.map String.toList, '\n' ∉ l := List.forall_mem_map.2 h
  have hne : ls.map String.toList ≠ [] := by simpa using hne
  rw [numberedLines, String.toList_intercalate, show "\n".toList = ['\n'] from rfl,
    List.splitOn_intercalate '\n' hlines hne]

/-- A number is the number of one line. -/
theorem eq_of_mem_numberedLines {line' : List Char} {number : Nat} (h : (line, number) ∈ numberedLines text)
    (h' : (line', number) ∈ numberedLines text) : line = line' := by
  have hat := (List.mem_zipIdx_iff_le_and_getElem?_sub.1 h).2
  rw [(List.mem_zipIdx_iff_le_and_getElem?_sub.1 h').2] at hat
  exact (Option.some.inj hat).symm

/-- An empty line at the end holds no marker. -/
theorem parseList_eq_splitOn (text : String) :
    parseList text = ofLines 1 ((text.toList.splitOn '\n').take lastLine) := by
  obtain ⟨rest, hsplit, hrest⟩ := Text.exists_splitOn_eq text.toList
  have hnone : ∀ number length, ofLines number (rest.take length) = [] := by
    intro number length
    rcases hrest with rfl | rfl
    · rw [List.take_nil]
      rfl
    · cases length <;> simp [ofLines, ofLine?, mayHoldMarker]
  rw [hsplit, List.take_append, ofLines_append, parseList_eq_chars, hnone, List.append_nil]

theorem mem_zipIdx_take_iff {number : Nat} :
    (line, number) ∈ ((text.toList.splitOn '\n').take lastLine).zipIdx 1 ↔
      (line, number) ∈ numberedLines text ∧ number ≤ lastLine := by
  rw [numberedLines, List.mem_zipIdx_iff_le_and_getElem?_sub, List.mem_zipIdx_iff_le_and_getElem?_sub,
    List.getElem?_take, and_assoc]
  refine and_congr_right fun hle => ?_
  have hlt : number - 1 < lastLine ↔ number ≤ lastLine := by omega
  simp only [hlt]
  split <;> simp_all

theorem mem_parse_iff : m ∈ parse text ↔ ∃ line, (line, m.compiledLine) ∈ numberedLines text ∧
    m.compiledLine ≤ lastLine ∧ ofLine? line m.compiledLine = some m := by
  rw [parse, List.mem_toArray, parseList_eq_splitOn, ofLines, List.mem_filterMap]
  constructor
  · rintro ⟨⟨line, number⟩, hline, hm⟩
    obtain ⟨hmem, hle⟩ := mem_zipIdx_take_iff.1 hline
    obtain rfl := compiledLine_of_ofLine? hm
    exact ⟨line, hmem, hle, hm⟩
  · rintro ⟨line, hline, hle, hm⟩
    exact ⟨(line, m.compiledLine), mem_zipIdx_take_iff.2 ⟨hline, hle⟩, hm⟩

theorem Sorted.eq_of_mem_iff {markers' : Array Marker} (hs : Sorted markers) (hs' : Sorted markers')
    (h : ∀ m, m ∈ markers ↔ m ∈ markers') : markers = markers' := by
  have : Std.Antisymm fun a b : Marker => a.compiledLine < b.compiledLine :=
    ⟨fun a b hab hba => absurd hab (Nat.lt_asymm hba)⟩
  have : Std.Irrefl fun a b : Marker => a.compiledLine < b.compiledLine := ⟨fun a => Nat.lt_irrefl _⟩
  exact Array.toList_inj.1 (List.Pairwise.eq_of_mem_iff hs hs' fun m => by simpa using h m)

/-! ## Written markers -/

/-- Each of the markers is written on its line of the text, and all other lines hold no comment. -/
structure Renders (markers : Array Marker) (text : String) : Prop where
  sorted : Sorted markers
  inRange : ∀ m ∈ markers, m.compiledLine ≤ lastLine ∧ 0 < m.templateLine ∧ m.templateLine ≤ lastLine
  written : ∀ m ∈ markers, ∃ line d, (line, m.compiledLine) ∈ numberedLines text ∧
    line ∈ Dialect.rendering d m.templateLine (m.templateRef.map String.toList)
  others : ∀ l ∈ numberedLines text, (∀ m ∈ markers, m.compiledLine ≠ l.2) →
    ¬ ['/', '/'] <:+: l.1 ∧ ¬ ['/', '*'] <:+: l.1

theorem Renders.exists_line (h : Renders markers text) (hm : m ∈ markers) :
    ∃ line, (line, m.compiledLine) ∈ numberedLines text ∧ ofLine? line m.compiledLine = some m := by
  obtain ⟨line, d, hline, hmem⟩ := h.written m hm
  obtain ⟨-, hpos, hlast⟩ := h.inRange m hm
  refine ⟨line, hline, (ofLine?_of_mem_rendering hmem hpos hlast _).trans ?_⟩
  obtain ⟨compiledLine, templateLine, templateRef⟩ := m
  cases templateRef <;> simp

/-- The markers of a text are those that were written on its lines. -/
theorem parse_of_renders (h : Renders markers text) : parse text = markers := by
  refine (sorted_parse text).eq_of_mem_iff h.sorted fun m => ?_
  rw [mem_parse_iff]
  constructor
  · rintro ⟨line, hline, -, hm⟩
    by_cases hwritten : ∃ m' ∈ markers, m'.compiledLine = m.compiledLine
    · obtain ⟨m', hm', heq⟩ := hwritten
      obtain ⟨line', hline', hof⟩ := h.exists_line hm'
      rw [heq] at hline' hof
      rw [← eq_of_mem_numberedLines hline hline', hm] at hof
      rwa [Option.some.inj hof]
    · obtain ⟨hslash, hstar⟩ := h.others _ hline fun m' hm' heq => hwritten ⟨m', hm', heq⟩
      have hnone : mayHoldMarker line ≠ true := fun hmay => (mayHoldMarker_iff.1 hmay).elim hslash hstar
      rw [ofLine?, if_neg hnone] at hm
      cases hm
  · intro hm
    obtain ⟨line, hline, hof⟩ := h.exists_line hm
    exact ⟨line, hline, (h.inRange m hm).1, hof⟩

namespace Sample

/-- A marker of each dialect, and lines without one. -/
def everyDialect : List String := [
  "package a;",
  "\t// LINE: 007, \"/it's (a).jsp\" tail",
  " /*** line12;'/b \"c\".jsp' **/ x",
  "//  /tags/a.TAG(0044,  4) b(1,2)",
  " / plain",
  "/* Line = 3 */ \r",
  ""]

def everyMarker : Array Marker :=
  #[⟨2, 7, some "/it's (a).jsp"⟩, ⟨3, 12, some "/b \"c\".jsp"⟩, ⟨4, 44, some "/tags/a.TAG"⟩, ⟨6, 3, none⟩]

end Sample

/-- References that hold the other quote, parentheses and more. -/
theorem parse_of_renders_everyDialect :
    Renders Sample.everyMarker ("\n".intercalate Sample.everyDialect) ∧
      parse ("\n".intercalate Sample.everyDialect) = Sample.everyMarker := by
  have hlines := @numberedLines_intercalate Sample.everyDialect (by decide) (by decide +kernel)
  have hrenders : Renders Sample.everyMarker ("\n".intercalate Sample.everyDialect) := by
    refine ⟨?_, by decide, fun m hm => ?_, ?_⟩
    · unfold Sorted
      decide
    · rw [hlines]
      simp only [Sample.everyMarker, List.mem_toArray, List.mem_cons, List.not_mem_nil, or_false] at hm
      rcases hm with rfl | rfl | rfl | rfl
      · exact ⟨_, .quotedLine, List.mem_of_getElem? (i := 1) rfl,
          Dialect.mem_rendering_quotedLine_iff.2 ⟨"007".toList, ⟨2, by decide⟩, by decide +kernel⟩⟩
      · exact ⟨_, .quotedBlock, List.mem_of_getElem? (i := 2) rfl,
          Dialect.mem_rendering_quotedBlock_iff.2 ⟨"12".toList, ⟨0, by decide⟩, by decide +kernel⟩⟩
      · exact ⟨_, .tagPosition, List.mem_of_getElem? (i := 3) rfl,
          Dialect.mem_rendering_tagPosition_iff.2 ⟨Dialect.mem_tagReference_iff.2
            ⟨"tags/a".toList, ".TAG".toList, by decide, by decide,
              Dialect.mem_extension_iff.2 ⟨".tag", by decide, by decide⟩, by decide⟩,
            "0044".toList, ⟨2, by decide⟩, by decide +kernel⟩⟩
      · exact ⟨_, .bare, List.mem_of_getElem? (i := 5) rfl,
          Dialect.mem_rendering_bare_iff.2 ⟨"3".toList, ⟨0, by decide⟩, by decide +kernel⟩⟩
    · rw [hlines]
      decide +kernel
  exact ⟨hrenders, parse_of_renders hrenders⟩

end Marker

end TemplateDebug
