import Mathlib.Data.List.DropRight
import TemplateDebug.Marker.Dialect
import TemplateDebug.Proofs.Text.Ascii
import TemplateDebug.Proofs.Text.Pattern
/-!
# The patterns of the dialects

What a dialect accepts, as a pattern: nothing is said there about how far each part reaches. A dialect reads its lines
from front to back and never steps back, and still it reads the lines of its pattern and no others.
-/

open scoped Computability

namespace TemplateDebug.Dialect

open Pattern Text

/-! ## Patterns -/

def lineOpening : Language Char := anyBlanks * only '/' * only '/' * anyBlanks

def blockOpening : Language Char := anyBlanks * only '/' * many (· = '*') * anyBlanks

def blockEnding : Language Char := anyBlanks * many (· = '*') * only '/'

/-- Blanks, with one of the characters `marks` among them or none. -/
def gap (marks : List Char) : Language Char := anyBlanks * orNothing (one marks.contains) * anyBlanks

def numbered : Language Char := anyCase "line".toList * gap [':', '='] * many isDigit

/-- Text between two quotes, which is not empty. -/
def between (quote : Char) : Language Char := only quote * many (· ≠ quote) * only quote

def reference : Language Char := gap [',', ';', ':'] * (between '"' + between '\'')

def extension : Language Char :=
  anyCase ".jsp".toList * orNothing (anyCase "x".toList) + anyCase ".jspf".toList +
    anyCase ".tag".toList * orNothing (anyCase "x".toList)

def position : Language Char := only '(' * many isDigit * only ',' * anyBlanks * many isDigit * only ')'

/-- The lines that are of a dialect. A marker with a reference may stand before anything, a bare one only before
blanks. -/
def pattern : Dialect → Language Char
  | quotedLine => lineOpening * numbered * reference * ⊤
  | quotedBlock => blockOpening * numbered * reference * blockEnding * ⊤
  | tagPosition => lineOpening * only '/' * many (! isBlank ·) * extension * position * ⊤
  | bare => lineOpening * numbered * anyBlanks + blockOpening * numbered * blockEnding * anyBlanks

variable {Y : Language Char} {s line : List Char} {d e : Dialect}

/-! ## Comments -/

theorem mem_lineOpening_mul_iff (h : Avoids isBlank Y) :
    s ∈ lineOpening * Y ↔ ∃ rest ∈ lineComment? s, rest ∈ Y := by
  simp only [lineOpening, mul_assoc]
  rw [mem_anyBlanks_mul_iff (avoids_only_mul (by decide)), lineComment?]
  simp only [mem_only_mul_iff, mem_anyBlanks_mul_iff h]
  split
  · rename_i rest heq
    simp [heq]
  · rename_i hno
    have hnot : ∀ rest, dropBlanks s ≠ '/' :: '/' :: rest := hno
    simp [hnot]

/-- A comment takes all stars at its start, so its text starts with none. -/
theorem mem_blockOpening_mul_iff (h : Avoids isBlank Y) (hstar : Avoids (· = '*') Y) :
    s ∈ blockOpening * Y ↔ ∃ rest ∈ blockComment? s, rest ∈ Y := by
  have hblanks : Avoids (· = '*') (anyBlanks * Y) := by
    refine avoids_star_mul (fun c hc => ?_) hstar
    rw [decide_eq_false_iff_not]
    rintro rfl
    exact absurd hc (by decide)
  simp only [blockOpening, mul_assoc]
  rw [mem_anyBlanks_mul_iff (avoids_only_mul (by decide)), blockComment?]
  simp only [mem_only_mul_iff, mem_many_eq_mul_iff hblanks, mem_anyBlanks_mul_iff h]
  split
  · rename_i rest heq
    simp [heq]
  · rename_i hno
    have hnot : ∀ rest, dropBlanks s ≠ '/' :: '*' :: rest := hno
    simp [hnot]

theorem mem_blockEnding_mul_iff : s ∈ blockEnding * Y ↔ ∃ rest ∈ blockEnd? s, rest ∈ Y := by
  have hslash : Avoids (· = '*') (only '/' * Y) := avoids_only_mul (by decide)
  have hstars : Avoids isBlank (many (· = '*') * (only '/' * Y)) := by
    refine avoids_many_mul fun c hc => ?_
    rw [of_decide_eq_true hc]
    decide
  simp only [blockEnding, mul_assoc]
  rw [mem_anyBlanks_mul_iff hstars, mem_many_eq_mul_iff hslash, blockEnd?]
  split
  · rename_i rest heq
    rw [heq]
    simp only [mem_only_mul_iff]
    split
    · rename_i heq
      simp [heq]
    · rename_i hno
      have hnot : ∀ t, rest.dropWhile (· = '*') ≠ '/' :: t := hno
      simp [hnot]
  · rename_i hno
    have hnot : ∀ rest, dropBlanks s ≠ '*' :: rest := hno
    simp [hnot]

theorem isSome_blockEnd?_iff : (blockEnd? s).isSome = true ↔ s ∈ blockEnding * ⊤ := by
  simp [mem_blockEnding_mul_iff, Option.isSome_iff_exists]

/-! ## Numbers -/

/-- A class that has none of the marks. -/
theorem eq_false_of_contains {p : Char → Bool} {marks : List Char} {c : Char} (h : marks.all (!p ·) = true)
    (hc : marks.contains c = true) : p c = false := by
  simpa using List.all_eq_true.1 h c (List.contains_iff_mem.1 hc)

/-- No mark is a blank, and what follows the gap starts with neither. -/
theorem mem_gap_mul_iff {marks : List Char} (hmarks : marks.all (!isBlank ·) = true) (hblank : Avoids isBlank Y)
    (hmark : Avoids marks.contains Y) : s ∈ gap marks * Y ↔ dropBlanks (dropMark marks (dropBlanks s)) ∈ Y := by
  have hone : Avoids isBlank (one marks.contains * (anyBlanks * Y)) :=
    avoids_one_mul fun c hc => eq_false_of_contains hmarks hc
  have hsplit : gap marks * Y = anyBlanks * Y + anyBlanks * (one marks.contains * (anyBlanks * Y)) := by
    simp only [gap, orNothing, anyBlanks, mul_assoc, add_mul, mul_add, one_mul]
    rw [← mul_assoc (one isBlank)∗, kstar_mul_kstar]
  rw [hsplit, Language.mem_add, mem_anyBlanks_mul_iff hblank, mem_anyBlanks_mul_iff hone]
  have hdrop : dropBlanks (dropBlanks s) = dropBlanks s := List.dropWhile_idempotent isBlank s
  generalize dropBlanks s = t at hdrop ⊢
  cases t with
  | nil => simp [dropMark, dropBlanks]
  | cons c t =>
    rw [cons_mem_one_mul, mem_anyBlanks_mul_iff hblank, dropMark]
    cases hc : marks.contains c with
    | true =>
      have hnot : c :: t ∉ Y := fun hmem => Bool.false_ne_true ((hmark c t hmem).symm.trans hc)
      simp [hnot]
    | false => simp [hdrop]

theorem append_of_digits? {ds rest : List Char} (h : digits? s = some (ds, rest)) :
    ds ++ rest = s ∧ ds ∈ many isDigit := by
  unfold digits? at h
  split at h
  · cases h
  · rename_i hne
    cases h
    refine ⟨List.takeWhile_append_dropWhile, mem_many_iff.2 ⟨hne, fun c hc => ?_⟩⟩
    exact List.all_eq_true.1 List.all_takeWhile c hc

/-- Digits are taken up to the first character that is none. -/
theorem mem_digits_mul_iff {D : Language Char} (hD : ∀ s ∈ D, s ∈ many isDigit) (h : Avoids isDigit Y) :
    s ∈ D * Y ↔ ∃ r ∈ digits? s, r.1 ∈ D ∧ r.2 ∈ Y := by
  constructor
  · rintro ⟨ds, hds, rest, hrest, rfl⟩
    obtain ⟨hne, hall⟩ := mem_many_iff.1 (hD ds hds)
    obtain ⟨htake, hdrop⟩ := takeWhile_append_of_avoids hall h hrest
    obtain ⟨c, cs, rfl⟩ := List.exists_cons_of_ne_nil hne
    refine ⟨(c :: cs, rest), ?_, hds, hrest⟩
    rw [Option.mem_def, digits?, htake, hdrop]
  · rintro ⟨r, hr, hds, hrest⟩
    rw [← (append_of_digits? hr).1]
    exact Language.append_mem_mul hds hrest

theorem mem_many_isDigit_mul_iff (h : Avoids isDigit Y) :
    s ∈ many isDigit * Y ↔ ∃ r ∈ digits? s, r.2 ∈ Y := by
  rw [mem_digits_mul_iff (fun _ hs => hs) h]
  exact exists_congr fun r => and_congr_right fun hr => and_iff_right (append_of_digits? hr).2

/-- The word `line` and then digits of this language. -/
def numberedBy (D : Language Char) : Language Char := anyCase "line".toList * gap [':', '='] * D

theorem mem_numberedBy_mul_iff {D : Language Char} (hD : ∀ s ∈ D, s ∈ many isDigit) (h : Avoids isDigit Y) :
    s ∈ numberedBy D * Y ↔ ∃ r ∈ lineNumber? s, r.1 ∈ D ∧ r.2 ∈ Y := by
  have hdigits : ∀ s ∈ D * Y, s ∈ many isDigit * Y := by
    rintro _ ⟨ds, hds, rest, hrest, rfl⟩
    exact Language.append_mem_mul (hD ds hds) hrest
  have hblank : Avoids isBlank (D * Y) :=
    (avoids_many_mul (apart_comm fun c hc => isDigit_of_isBlank hc)).mono hdigits
  have hmarks : [':', '='].all (!isDigit ·) = true := by decide +kernel
  have hmark : Avoids [':', '='].contains (D * Y) :=
    (avoids_many_mul (apart_comm fun c hc => eq_false_of_contains hmarks hc)).mono hdigits
  simp only [numberedBy, mul_assoc]
  rw [mem_anyCase_mul_iff, lineNumber?]
  cases dropWord? "line".toList s with
  | none => simp
  | some rest =>
    simp only [Option.mem_some_iff, exists_eq_left', Option.bind_some]
    rw [mem_gap_mul_iff (by decide) hblank hmark, mem_digits_mul_iff hD h]

theorem mem_many_isDigit_of_lineNumber? {r : List Char × List Char} (h : lineNumber? s = some r) :
    r.1 ∈ many isDigit := by
  obtain ⟨rest, -, hdigits⟩ := Option.bind_eq_some_iff.1 h
  exact (append_of_digits? hdigits).2

theorem mem_numbered_mul_iff (h : Avoids isDigit Y) : s ∈ numbered * Y ↔ ∃ r ∈ lineNumber? s, r.2 ∈ Y := by
  rw [show numbered = numberedBy (many isDigit) from rfl, mem_numberedBy_mul_iff (fun _ hs => hs) h]
  exact exists_congr fun r => and_congr_right fun hr => and_iff_right (mem_many_isDigit_of_lineNumber? hr)

theorem avoids_numberedBy_mul {D : Language Char} {p : Char → Bool} (hlower : p 'l' = false) (hupper : p 'L' = false) :
    Avoids p (numberedBy D * Y) := by
  simp only [numberedBy, mul_assoc]
  refine avoids_anyCase_mul (w := "ine".toList) fun c hc => ?_
  rcases fold_eq_l hc with rfl | rfl
  · exact hlower
  · exact hupper

theorem mem_lineOpening_mul_numberedBy_iff {D : Language Char} :
    s ∈ lineOpening * (numberedBy D * Y) ↔ ∃ rest ∈ lineComment? s, rest ∈ numberedBy D * Y :=
  mem_lineOpening_mul_iff (avoids_numberedBy_mul (by decide) (by decide))

theorem mem_blockOpening_mul_numberedBy_iff {D : Language Char} :
    s ∈ blockOpening * (numberedBy D * Y) ↔ ∃ rest ∈ blockComment? s, rest ∈ numberedBy D * Y :=
  mem_blockOpening_mul_iff (avoids_numberedBy_mul (by decide) (by decide))
    (avoids_numberedBy_mul (by decide) (by decide))

/-! ## References -/

/-- The text up to the next quote is not empty, and what follows it starts with the quote. -/
theorem upTo?_eq_some_iff {quote : Char} {ref rest : List Char} :
    upTo? quote s = some (ref, rest) ↔ ref ++ quote :: rest = s ∧ ref ∈ many (· ≠ quote) := by
  have hquote : Avoids (· ≠ quote) (only quote * ⊤) := avoids_only_mul (by simp)
  constructor
  · intro h
    unfold upTo? at h
    split at h
    · cases h
    · cases h
    · rename_i d rest hdrop hne
      cases h
      have hd := List.head?_dropWhile_not (fun c : Char => decide (c ≠ quote)) s
      rw [hdrop] at hd
      have hd : d = quote := by simpa using hd
      subst hd
      refine ⟨?_, mem_many_iff.2 ⟨hne, fun c hc => List.all_eq_true.1 List.all_takeWhile c hc⟩⟩
      rw [← hdrop]
      exact List.takeWhile_append_dropWhile
  · rintro ⟨rfl, hmany⟩
    obtain ⟨hne, hall⟩ := mem_many_iff.1 hmany
    have hrest : quote :: rest ∈ only quote * ⊤ := cons_mem_only_mul.2 ⟨rfl, mem_top⟩
    obtain ⟨htake, hdrop⟩ := takeWhile_append_of_avoids hall hquote hrest
    obtain ⟨c, cs, rfl⟩ := List.exists_cons_of_ne_nil hne
    rw [upTo?, htake, hdrop]

/-- Text of this language between two quotes, which holds none itself and is not empty. -/
def quotedBy (R : Language Char) (quote : Char) : Language Char := only quote * both R (many (· ≠ quote)) * only quote

theorem mem_quotedBy_mul_iff {R : Language Char} {quote : Char} :
    s ∈ quotedBy R quote * Y ↔ ∃ t, s = quote :: t ∧ ∃ r ∈ upTo? quote t, r.1 ∈ R ∧ r.2 ∈ Y := by
  simp only [quotedBy, mul_assoc, mem_only_mul_iff (c := quote) (s := s)]
  refine exists_congr fun t => and_congr_right fun _ => ?_
  constructor
  · rintro ⟨ref, ⟨href, hmany⟩, _, ⟨_, ⟨d, hd, rfl⟩, rest, hrest, rfl⟩, rfl⟩
    refine ⟨(ref, rest), upTo?_eq_some_iff.2 ⟨?_, hmany⟩, href, hrest⟩
    rw [of_decide_eq_true hd]
    rfl
  · rintro ⟨⟨ref, rest⟩, hr, href, hrest⟩
    obtain ⟨rfl, hmany⟩ := upTo?_eq_some_iff.1 hr
    exact Language.append_mem_mul ⟨href, hmany⟩ (cons_mem_only_mul.2 ⟨rfl, hrest⟩)

theorem avoids_quotedBy_mul {R R' : Language Char} {p : Char → Bool} (hdouble : p '"' = false)
    (hsingle : p '\'' = false) : Avoids p ((quotedBy R '"' + quotedBy R' '\'') * Y) := by
  simp only [quotedBy, add_mul, mul_assoc]
  exact avoids_add (avoids_only_mul hdouble) (avoids_only_mul hsingle)

/-- A reference of this language in quotes of one kind. -/
def referenceBy (R : Language Char) : Language Char := gap [',', ';', ':'] * (quotedBy R '"' + quotedBy R '\'')

theorem reference_eq : reference = referenceBy ⊤ := by
  simp only [reference, referenceBy, between, quotedBy, both_top]

theorem isDigit_avoids_referenceBy_mul {R : Language Char} : Avoids isDigit (referenceBy R * Y) := by
  have hmarks : [',', ';', ':'].all (!isDigit ·) = true := by decide +kernel
  have hquotes : Avoids isDigit (anyBlanks * ((quotedBy R '"' + quotedBy R '\'') * Y)) :=
    avoids_star_mul (fun c hc => isDigit_of_isBlank hc) (avoids_quotedBy_mul (by decide +kernel) (by decide +kernel))
  simp only [referenceBy, gap, mul_assoc]
  exact avoids_star_mul (fun c hc => isDigit_of_isBlank hc)
    (avoids_orNothing_mul (avoids_one_mul fun c hc => eq_false_of_contains hmarks hc) hquotes)

theorem mem_referenceBy_mul_iff {R : Language Char} :
    s ∈ referenceBy R * Y ↔ ∃ r ∈ quotedRef? s, r.1 ∈ R ∧ r.2 ∈ Y := by
  rw [referenceBy, mul_assoc, mem_gap_mul_iff (by decide) (avoids_quotedBy_mul (by decide) (by decide))
    (avoids_quotedBy_mul (by decide) (by decide)), add_mul, Language.mem_add, mem_quotedBy_mul_iff,
    mem_quotedBy_mul_iff, quotedRef?]
  split
  · rename_i rest heq
    simp [heq]
  · rename_i rest heq
    simp [heq]
  · rename_i hdouble hsingle
    have hdouble : ∀ t, dropBlanks (dropMark [',', ';', ':'] (dropBlanks s)) ≠ '"' :: t := hdouble
    have hsingle : ∀ t, dropBlanks (dropMark [',', ';', ':'] (dropBlanks s)) ≠ '\'' :: t := hsingle
    simp [hdouble, hsingle]

theorem mem_reference_mul_iff : s ∈ reference * Y ↔ ∃ r ∈ quotedRef? s, r.2 ∈ Y := by
  simp [reference_eq, mem_referenceBy_mul_iff]

/-! ## Tag positions -/

theorem position?_eq_some_iff {digits : List Char} : position? s = some digits ↔
    ∃ t, s = '(' :: t ∧ ∃ u, digits? t = some (digits, ',' :: u) ∧
      ∃ column v, digits? (dropBlanks u) = some (column, ')' :: v) := by
  constructor
  · intro h
    fun_cases position? s with
    | case1 t line u hline column v hcolumn =>
      simp only [position?, hline, hcolumn, Option.some.injEq] at h
      subst h
      exact ⟨t, rfl, u, hline, column, v, hcolumn⟩
    | case2 => simp_all [position?]
    | case3 => simp_all [position?]
    | case4 => simp_all [position?]
  · rintro ⟨t, rfl, u, hline, column, v, hcolumn⟩
    simp [position?, hline, hcolumn]

/-- A position whose line has digits of this language. -/
def positionBy (D : Language Char) : Language Char := only '(' * D * only ',' * anyBlanks * many isDigit * only ')'

theorem mem_positionBy_mul_top_iff {D : Language Char} (hD : ∀ s ∈ D, s ∈ many isDigit) :
    s ∈ positionBy D * ⊤ ↔ ∃ digits ∈ position? s, digits ∈ D := by
  have hclose : Avoids isDigit (only ')' * (⊤ : Language Char)) := avoids_only_mul (by decide +kernel)
  have hcolumn : Avoids isBlank (many isDigit * (only ')' * ⊤)) :=
    avoids_many_mul (apart_comm fun c hc => isDigit_of_isBlank hc)
  have hcomma : Avoids isDigit (only ',' * (anyBlanks * (many isDigit * (only ')' * ⊤)))) :=
    avoids_only_mul (by decide +kernel)
  simp only [positionBy, mul_assoc, mem_only_mul_iff (s := s), mem_digits_mul_iff hD hcomma]
  simp only [mem_only_mul_iff, mem_anyBlanks_mul_iff hcolumn, mem_many_isDigit_mul_iff hclose, Option.mem_def,
    position?_eq_some_iff]
  constructor
  · rintro ⟨t, rfl, ⟨digits, _⟩, hdigits, hmem, u, rfl, ⟨column, _⟩, hcolumn, v, rfl, -⟩
    exact ⟨digits, ⟨t, rfl, u, hdigits, column, v, hcolumn⟩, hmem⟩
  · rintro ⟨digits, ⟨t, rfl, u, hdigits, column, v, hcolumn⟩, hmem⟩
    exact ⟨t, rfl, (digits, ',' :: u), hdigits, hmem, u, rfl, (column, ')' :: v), hcolumn, v, rfl, mem_top⟩

theorem mem_position_mul_top_iff : s ∈ position * ⊤ ↔ (position? s).isSome := by
  rw [show position = positionBy (many isDigit) from rfl, mem_positionBy_mul_top_iff fun _ hs => hs,
    Option.isSome_iff_exists]
  refine exists_congr fun digits => and_iff_left_of_imp fun h => ?_
  obtain ⟨t, -, u, hdigits, -⟩ := position?_eq_some_iff.1 h
  exact (append_of_digits? hdigits).2

theorem mem_extension_iff : s ∈ extension ↔ ∃ e ∈ tagExtensions, s.map fold = e.toList := by
  have hx : anyCase ".jsp".toList * anyCase "x".toList = anyCase ".jspx".toList := anyCase_append.symm
  have htagx : anyCase ".tag".toList * anyCase "x".toList = anyCase ".tagx".toList := anyCase_append.symm
  simp only [extension, orNothing, mul_add, mul_one, hx, htagx, Language.mem_add, mem_anyCase, tagExtensions,
    List.mem_cons, List.not_mem_nil, or_false]
  simp only [exists_eq_or_imp, exists_eq_left, or_assoc]

theorem mem_extension_mul_iff : s ∈ extension * Y ↔ ∃ e ∈ tagExtensions, ∃ rest ∈ dropWord? e.toList s, rest ∈ Y := by
  constructor
  · rintro ⟨v, hv, rest, hrest, rfl⟩
    obtain ⟨e, he, hfold⟩ := mem_extension_iff.1 hv
    exact ⟨e, he, rest, dropWord?_eq_some_iff.2 ⟨v, hfold, rfl⟩, hrest⟩
  · rintro ⟨e, he, rest, hdrop, hrest⟩
    obtain ⟨v, hfold, rfl⟩ := dropWord?_eq_some_iff.1 hdrop
    exact Language.append_mem_mul (mem_extension_iff.2 ⟨e, he, hfold⟩) hrest

theorem placed?_isSome_iff : (placed? s).isSome ↔ s ∈ extension * (position * ⊤) := by
  rw [mem_extension_mul_iff, placed?, List.isSome_findSome?, List.any_eq_true]
  refine exists_congr fun e => and_congr_right fun _ => ?_
  cases dropWord? e.toList s <;> simp [mem_position_mul_top_iff]

theorem placedAfter?_isSome_iff :
    (placedAfter? s).isSome ↔ s ∈ many (! isBlank ·) * (extension * (position * ⊤)) := by
  induction s with
  | nil => simp [placedAfter?]
  | cons c s ih =>
    rw [cons_mem_many_mul_iff, ← placed?_isSome_iff, ← ih, placedAfter?]
    cases hc : isBlank c with
    | true => simp
    | false => cases placed? s <;> simp

/-! ## What stands in a comment -/

theorem mem_anyBlanks_iff : s ∈ anyBlanks ↔ dropBlanks s = [] := by
  have h := mem_anyBlanks_mul_iff (Y := 1) (s := s) avoids_one
  rwa [mul_one] at h

theorem isDigit_avoids_anyBlanks : Avoids isDigit anyBlanks := by
  have h := avoids_star_mul (q := isBlank) (Y := 1) (fun c hc => isDigit_of_isBlank hc) avoids_one
  rwa [mul_one] at h

theorem isDigit_avoids_blockEnding_mul : Avoids isDigit (blockEnding * Y) := by
  simp only [blockEnding, mul_assoc]
  refine avoids_star_mul (fun c hc => isDigit_of_isBlank hc) (avoids_many_mul fun c hc => ?_)
  rw [of_decide_eq_true hc]
  decide +kernel

theorem readQuoted_isSome_iff {after : List Char → Bool} (hafter : ∀ rest, after rest = true ↔ rest ∈ Y) :
    (readQuoted after s).isSome ↔ s ∈ numbered * (reference * Y) := by
  rw [mem_numbered_mul_iff (reference_eq ▸ isDigit_avoids_referenceBy_mul), readQuoted]
  cases lineNumber? s with
  | none => simp
  | some r =>
    simp only [Option.mem_some_iff, exists_eq_left', mem_reference_mul_iff]
    cases quotedRef? r.2 with
    | none => simp
    | some q => by_cases h : after q.2 = true <;> simp [h, ← hafter]

theorem readPosition_isSome_iff :
    (readPosition s).isSome ↔ s ∈ only '/' * (many (! isBlank ·) * (extension * (position * ⊤))) := by
  rw [mem_only_mul_iff]
  simp only [← placedAfter?_isSome_iff]
  unfold readPosition
  split
  · simp
  · rename_i hno
    have hnot : ∀ t, s ≠ '/' :: t := hno
    simp [hnot]

theorem readBareLine_isSome_iff : (readBareLine s).isSome ↔ s ∈ numbered * anyBlanks := by
  rw [mem_numbered_mul_iff isDigit_avoids_anyBlanks, readBareLine]
  simp only [mem_anyBlanks_iff]
  cases lineNumber? s with
  | none => simp
  | some r => by_cases h : dropBlanks r.2 = [] <;> simp [h]

theorem readBareBlock_isSome_iff : (readBareBlock s).isSome ↔ s ∈ numbered * (blockEnding * anyBlanks) := by
  rw [mem_numbered_mul_iff isDigit_avoids_blockEnding_mul, readBareBlock]
  simp only [mem_blockEnding_mul_iff, mem_anyBlanks_iff]
  cases lineNumber? s with
  | none => simp
  | some r =>
    simp only [Option.mem_some_iff, exists_eq_left']
    cases blockEnd? r.2 with
    | none => simp
    | some rest => by_cases h : dropBlanks rest = [] <;> simp [h]

/-! ## Dialects -/

/-- A line is one comment or the other, or none at all. -/
theorem lineComment?_eq_none_of_blockComment? (h : blockComment? line = some s) : lineComment? line = none := by
  unfold blockComment? at h
  split at h
  · rename_i rest heq
    rw [lineComment?, heq]
    rfl
  · cases h

/-- A dialect reads the lines of its pattern, and no others. -/
theorem read?_isSome_iff : (d.read? line).isSome ↔ line ∈ d.pattern := by
  have hline : ∀ Y, line ∈ lineOpening * (numbered * Y) ↔ ∃ s ∈ lineComment? line, s ∈ numbered * Y := fun _ =>
    mem_lineOpening_mul_numberedBy_iff
  have hblock : ∀ Y, line ∈ blockOpening * (numbered * Y) ↔ ∃ s ∈ blockComment? line, s ∈ numbered * Y := fun _ =>
    mem_blockOpening_mul_numberedBy_iff
  cases d with
  | quotedLine =>
    simp only [pattern, mul_assoc]
    rw [hline, read?]
    have hafter : ∀ rest : List Char, true = true ↔ rest ∈ (⊤ : Language Char) := by simp
    cases lineComment? line <;> simp [readQuoted_isSome_iff hafter]
  | quotedBlock =>
    simp only [pattern, mul_assoc]
    rw [hblock, read?]
    cases blockComment? line <;> simp [readQuoted_isSome_iff fun _ => isSome_blockEnd?_iff]
  | tagPosition =>
    simp only [pattern, mul_assoc]
    rw [mem_lineOpening_mul_iff (avoids_only_mul (by decide)), read?]
    cases lineComment? line <;> simp [readPosition_isSome_iff]
  | bare =>
    simp only [pattern, mul_assoc, Language.mem_add]
    rw [hline, hblock, read?]
    cases hcomment : blockComment? line with
    | none => cases lineComment? line <;> simp [readBareLine_isSome_iff]
    | some s =>
      have hnone := lineComment?_eq_none_of_blockComment? hcomment
      simp [hnone, readBareBlock_isSome_iff]

end TemplateDebug.Dialect
