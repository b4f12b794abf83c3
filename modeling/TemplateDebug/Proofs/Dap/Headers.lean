import TemplateDebug.Proofs.Dap.Frames
import TemplateDebug.Proofs.Text.Blanks
import TemplateDebug.Proofs.Text.Utf8
/-!
# Header lines

A header line is read by the name in front of its first colon and the value after it, both well formed, and by nothing
else: blanks around the value and line ends after it are dropped. The headers of a frame are read line by line, each of
which may change the length, up to the blank line.
-/

namespace TemplateDebug.Dap

open Utf8 (ascii IsAscii Begins decode?)

variable {line name rest front blank : Bytes} {lines : List Bytes} {s t : List Char} {c : Char}

/-! ## Line ends -/

theorem isBlank_of_isLineEnd (h : isLineEnd c = true) : Text.isBlank c = true := by
  simp only [isLineEnd, Bool.or_eq_true, decide_eq_true_eq] at h
  rcases h with rfl | rfl <;> decide

theorem dropLineEnds_append_cons (h : isLineEnd c = false) (s t : List Char) :
    dropLineEnds (s ++ c :: t) = s ++ c :: dropLineEnds t := by
  rw [dropLineEnds, dropLineEnds, List.reverse_append, List.reverse_cons, List.append_assoc, List.dropWhile_append]
  cases t.reverse.dropWhile isLineEnd with
  | nil => simp [h]
  | cons d u => simp

theorem dropLineEnds_eq_nil_iff : dropLineEnds s = [] ↔ ∀ c ∈ s, isLineEnd c = true :=
  List.rdropWhile_eq_nil_iff

/-- Line ends are blanks, so a trimmed text is the same without them. -/
theorem trim_dropLineEnds (s : List Char) : Text.trim (dropLineEnds s) = Text.trim s := by
  have hsplit : dropLineEnds s ++ s.rtakeWhile isLineEnd = s := List.rdropWhile_append_rtakeWhile
  have hblank : ∀ c ∈ s.rtakeWhile isLineEnd, Text.isBlank c = true := fun c hc =>
    isBlank_of_isLineEnd (List.mem_rtakeWhile_imp hc)
  rw [← Text.trim_append_blanks hblank, hsplit]

/-! ## The name and the value -/

/-- The byte between the name of a header and its value. -/
def colon : UInt8 := 58

/-- What a header says with this name and this value. -/
def readField (name value : List Char) : Except FrameError HeaderLine :=
  if Text.sameIgnoringAsciiCase (String.ofList name) lengthHeader then
    match Text.word (Text.trim value) with
    | .ok n => .ok (.length n)
    | .error reason => .error (.lengthInvalid (String.ofList (Text.trim value)) reason)
  else .ok .other

theorem readHeaderText_field (h : ':' ∉ s) (value : List Char) :
    readHeaderText (s ++ ':' :: value) = readField s value := by
  rw [readHeaderText, dropLineEnds_append_cons (by decide)]
  simp only [splitHeader?_colon h, trim_dropLineEnds]
  rw [List.isEmpty_eq_false_iff.2 (by simp)]
  rfl

theorem readHeaderText_plain (h : ':' ∉ s) :
    readHeaderText s = .ok (if s.all isLineEnd then .blank else .other) := by
  have hplain : splitHeader? (dropLineEnds s) = none := by
    have hnone : (dropLineEnds s).dropWhile (fun c => decide (c ≠ ':')) = [] := by
      rw [List.dropWhile_eq_nil_iff]
      intro c hc
      apply decide_eq_true
      rintro rfl
      exact h ((List.rdropWhile_prefix isLineEnd s).subset hc)
    rw [splitHeader?, hnone]
  rw [readHeaderText]
  simp only [hplain, List.isEmpty_iff, dropLineEnds_eq_nil_iff, ← List.all_eq_true]
  split <;> rfl

theorem decode?_field (name value : Bytes) : decode? (name ++ colon :: value) =
    (decode? name).bind fun n => (decode? value).map fun v => n ++ (":" ++ v) := by
  have hcolon : decode? [colon] = some ":" := @Utf8.decode?_ascii [':'] (Utf8.isAscii_iff.2 (by decide))
  have hvalue : decode? (colon :: value) = (decode? value).map (":" ++ ·) := by
    rw [← List.singleton_append, Utf8.decode?_append (.inr (by simp [hcolon])), hcolon]
    rfl
  have hbegins : Begins (colon :: value) := by
    rintro _ ⟨⟩
    exact .inl (by decide)
  rw [Utf8.decode?_append (.inl hbegins), hvalue]
  cases decode? value <;> rfl

/-- A header is read by its name and its value, if both are well formed. -/
theorem readHeaderLine_field (h : colon ∉ name) (value : Bytes) : readHeaderLine (name ++ colon :: value) =
    match decode? name, decode? value with
    | some n, some v => readField n.toList v.toList
    | _, _ => .error .headerNotUtf8 := by
  rw [readHeaderLine, decode?_field]
  cases hname : decode? name with
  | none => rfl
  | some n =>
    cases decode? value with
    | none => rfl
    | some v =>
      have hplain : ':' ∉ n.toList := Utf8.notMem_of_decode? hname (by decide) h
      simp only [Option.bind_some, Option.map_some, String.toList_append, show ":".toList = [':'] from rfl,
        List.singleton_append, readHeaderText_field hplain]

theorem readHeaderLine_plain (h : colon ∉ line) : readHeaderLine line =
    match decode? line with
    | some s => .ok (if s.toList.all isLineEnd then .blank else .other)
    | none => .error .headerNotUtf8 := by
  rw [readHeaderLine]
  cases hline : decode? line with
  | none => rfl
  | some s => exact readHeaderText_plain (Utf8.notMem_of_decode? hline (by decide) h)

/-- Line ends after a header do not matter. -/
theorem readHeaderLine_append_ends (h : ∀ c ∈ t, isLineEnd c = true) (front : Bytes) :
    readHeaderLine (front ++ ascii t) = readHeaderLine front := by
  have hascii : IsAscii t := by
    intro c hc
    have hend := h c hc
    simp only [isLineEnd, Bool.or_eq_true, decide_eq_true_eq] at hend
    rcases hend with rfl | rfl <;> decide
  have hends := Utf8.decode?_ascii hascii
  have hbegins : Begins (ascii t) := Utf8.begins_of_decode? (by simp [hends])
  rw [readHeaderLine, Utf8.decode?_append (.inl hbegins), hends, readHeaderLine]
  cases decode? front with
  | none => rfl
  | some s => simp [readHeaderText, dropLineEnds_append_ends h]

/-! ## Lines -/

/-- The bytes are one line: they end in a line feed and hold no other. -/
def IsLine (line : Bytes) : Prop := ∃ front, lineFeed ∉ front ∧ line = front ++ [lineFeed]

/-- A text of nothing but carriage returns and line feeds. -/
def IsBlank (line : Bytes) : Prop := ∃ s, decode? line = some s ∧ ∀ c ∈ s.toList, isLineEnd c = true

/-- A line of the headers, which does not end them. -/
structure IsHeader (line : Bytes) : Prop where
  isLine : IsLine line
  notBlank : ¬ IsBlank line

theorem isLine_concat_iff {byte : UInt8} : IsLine (front ++ [byte]) ↔ lineFeed ∉ front ∧ byte = lineFeed := by
  constructor
  · rintro ⟨front', hfeed, heq⟩
    obtain ⟨rfl, hbyte⟩ := List.append_inj' heq rfl
    exact ⟨hfeed, List.head_eq_of_cons_eq hbyte⟩
  · rintro ⟨hfeed, rfl⟩
    exact ⟨front, hfeed, rfl⟩

theorem isLine_append_iff (h : rest ≠ []) : IsLine (front ++ rest) ↔ lineFeed ∉ front ∧ IsLine rest := by
  obtain ⟨inner, last, rfl⟩ := List.eq_nil_or_concat' rest |>.resolve_left h
  rw [← List.append_assoc, isLine_concat_iff, isLine_concat_iff, List.mem_append, not_or, and_assoc]

theorem readHeaderLine_eq_blank_iff : readHeaderLine line = .ok .blank ↔ IsBlank line := by
  unfold readHeaderLine IsBlank
  cases decode? line with
  | none => simp
  | some s =>
    simp only [Option.some.injEq, exists_eq_left']
    refine ⟨readHeaderText_eq_blank, fun hends => ?_⟩
    simp [readHeaderText, dropLineEnds_eq_nil_iff.2 hends]

/-- What a line of the headers says, or why the headers are refused for it. -/
def effect (line : Bytes) : Except FrameError HeaderLine :=
  if maxHeaderLineBytes < line.length then .error .headerTooLong else readHeaderLine line

/-- The headers begin with their first line. -/
theorem readHeaders_line (h : IsLine line) (started : Bool) (length : Option Nat) (more : Bytes) :
    readHeaders started length [line ++ more] =
      match effect line with
      | .error e => .error e
      | .ok .blank => .ok (some (length, [more]))
      | .ok (.length n) => readHeaders true (some n) [more]
      | .ok .other => readHeaders true length [more] := by
  obtain ⟨front, hfront, rfl⟩ := h
  have htake : takeLine [front ++ [lineFeed] ++ more] =
      if maxHeaderLineBytes < (front ++ [lineFeed]).length then .error .headerTooLong
      else .ok (some (front ++ [lineFeed]), [more]) := by
    rw [takeLine, List.append_assoc, List.singleton_append, takeLineFrom_end hfront, List.nil_append,
      List.length_append, List.length_singleton]
  rw [readHeaders_eq, htake, effect]
  by_cases hlong : maxHeaderLineBytes < (front ++ [lineFeed]).length
  · rw [if_pos hlong, if_pos hlong]
  · rewrite [if_neg hlong, if_neg hlong]
    rfl

theorem effect_eq_blank (h : effect line = .ok .blank) : IsBlank line := by
  unfold effect at h
  split at h
  · cases h
  · exact readHeaderLine_eq_blank_iff.1 h

/-- A blank line is not read as a header; it may only be too long. -/
theorem effect_of_isBlank (h : IsBlank line) : effect line = .error .headerTooLong ∨ effect line = .ok .blank := by
  unfold effect
  split
  · exact .inl rfl
  · exact .inr (readHeaderLine_eq_blank_iff.2 h)

/-- The length after a line, if it is `length` before. -/
def keep (length : Option Nat) (line : Bytes) : Except FrameError (Option Nat) :=
  (effect line).map fun
    | .length n => some n
    | _ => length

/-- The headers are read line by line, up to the blank line. -/
theorem readHeaders_lines (hheaders : ∀ line ∈ lines, IsHeader line) (hline : IsLine blank) (hblank : IsBlank blank)
    (started : Bool) (length : Option Nat) (body : Bytes) :
    readHeaders started length [lines.flatten ++ (blank ++ body)] =
      (lines.foldlM keep length).bind fun n => (effect blank).map fun _ => some (n, [body]) := by
  -- induction on the headers, each of which may change the length that the others begin with
  induction lines generalizing started length with
  | nil =>
    rw [List.flatten_nil, List.nil_append, readHeaders_line hline]
    rcases effect_of_isBlank hblank with heffect | heffect <;> rw [heffect] <;> rfl
  | cons line lines ih =>
    obtain ⟨hfirst, hothers⟩ := List.forall_mem_cons.1 hheaders
    rw [List.flatten_cons, List.append_assoc, readHeaders_line hfirst.isLine, List.foldlM_cons, keep]
    cases heffect : effect line with
    | error e => rfl
    | ok header =>
      cases header with
      | blank => exact absurd (effect_eq_blank heffect) hfirst.notBlank
      | length n => exact ih hothers true (some n)
      | other => exact ih hothers true length

end TemplateDebug.Dap
