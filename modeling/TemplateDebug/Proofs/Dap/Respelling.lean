import Mathlib.Logic.Relation
import TemplateDebug.Proofs.Dap.Headers
/-!
# Headers that say the same

Of its headers only the length matters to a frame, and of several lengths only the last one. So other headers may stand
anywhere before the blank line, and other lengths before the last; and a header may be written in letters of the other
case, with blanks around its value, or without the carriage return at its end. None of this makes a difference, as long
as no line comes to be too long by it, or ceases to be.
-/

namespace TemplateDebug.Dap

open Utf8 (ascii IsAscii lowerByte decode?)

variable {line line' blank blank' name name' value before after : Bytes} {lines lines' : List Bytes}
  {body : Bytes} {n : Nat}

/-! ## Lines with the length, and others -/

/-- The name of the length, in letters of either case. -/
def IsLengthName (name : Bytes) : Prop := name.map lowerByte = (ascii lengthHeader.toList).map lowerByte

instance : DecidablePred IsLengthName := fun _ => inferInstanceAs (Decidable (_ = _))

/-- The name of the length stands before the first colon. -/
def NamesLength (line : Bytes) : Prop := ∃ name value, line = name ++ colon :: value ∧ IsLengthName name

/-- A header that is well formed and not too long, of another name or without one. -/
structure IsOther (line : Bytes) : Prop where
  isLine : IsLine line
  fits : line.length ≤ maxHeaderLineBytes
  wellFormed : decode? line ≠ none
  notBlank : ¬ IsBlank line
  notLength : ¬ NamesLength line

/-- A header that is not too long and gives this length, with any blanks around it. -/
structure GivesLength (line : Bytes) (n : Nat) : Prop where
  isLine : IsLine line
  fits : line.length ≤ maxHeaderLineBytes
  gives : ∃ name value s, line = name ++ colon :: value ∧ IsLengthName name ∧ decode? value = some s ∧
    Text.word (Text.trim s.toList) = .ok n

/-- The name of the length has no colon. -/
theorem IsLengthName.colon_notMem (h : IsLengthName name) : colon ∉ name := by
  rw [Utf8.mem_iff_of_map_lowerByte (by decide) h]
  decide

theorem map_lowerByte_lengthHeader :
    (ascii lengthHeader.toList).map lowerByte = ascii (lengthHeader.toList.map Char.toLower) := by
  decide

/-- The name of the length is read as such, and nothing else is. -/
theorem IsLengthName.decode? (h : IsLengthName name) : ∃ s, Utf8.decode? name = some s ∧
    Text.sameIgnoringAsciiCase (String.ofList s.toList) lengthHeader = true := by
  have hlower := Utf8.decode?_map_lowerByte name
  rw [h, map_lowerByte_lengthHeader, Utf8.decode?_ascii (Utf8.isAscii_iff.2 (by decide)), Option.map_some, eq_comm,
    Option.map_eq_some_iff] at hlower
  obtain ⟨s, hs, hsame⟩ := hlower
  refine ⟨s, hs, ?_⟩
  simpa [Text.sameIgnoringAsciiCase] using hsame

theorem isLengthName_of_decode? {s : String} (h : decode? name = some s)
    (hsame : Text.sameIgnoringAsciiCase (String.ofList s.toList) lengthHeader = true) : IsLengthName name := by
  have htext : s.toList.map Char.toLower = lengthHeader.toList.map Char.toLower := by
    simpa [Text.sameIgnoringAsciiCase] using hsame
  rw [IsLengthName, map_lowerByte_lengthHeader]
  apply Utf8.eq_ascii_of_chars (Utf8.isAscii_iff.2 (by decide))
  rw [Utf8.chars_map_lowerByte, Utf8.decode?_eq_some_iff.1 h, ← htext]
  simp

theorem effect_of_fits (h : line.length ≤ maxHeaderLineBytes) : effect line = readHeaderLine line :=
  if_neg (Nat.not_lt.2 h)

theorem effect_of_isOther (h : IsOther line) : effect line = .ok .other := by
  rw [effect_of_fits h.fits]
  by_cases hcolon : colon ∈ line
  · obtain ⟨name, value, rfl, hplain⟩ := List.eq_append_cons_of_mem hcolon
    have hformed := h.wellFormed
    rw [decode?_field] at hformed
    rw [readHeaderLine_field hplain]
    cases hname : decode? name with
    | none => simp [hname] at hformed
    | some n =>
      cases hvalue : decode? value with
      | none => simp [hvalue] at hformed
      | some v =>
        refine if_neg fun hsame => ?_
        exact h.notLength ⟨name, value, rfl, isLengthName_of_decode? hname hsame⟩
  · rw [readHeaderLine_plain hcolon]
    cases hline : decode? line with
    | none => exact absurd hline h.wellFormed
    | some s =>
      have hends : ¬ s.toList.all isLineEnd = true := fun hends =>
        h.notBlank ⟨s, hline, List.all_eq_true.1 hends⟩
      simp only [if_neg hends]

theorem effect_of_givesLength (h : GivesLength line n) : effect line = .ok (.length n) := by
  obtain ⟨name, value, s, rfl, hname, hvalue, hword⟩ := h.gives
  obtain ⟨lengthName, hlength, hsame⟩ := hname.decode?
  rw [effect_of_fits h.fits, readHeaderLine_field hname.colon_notMem, hlength, hvalue]
  simp only [readField, hsame, hword, if_true]

theorem IsOther.isHeader (h : IsOther line) : IsHeader line := ⟨h.isLine, h.notBlank⟩

theorem GivesLength.isHeader (h : GivesLength line n) : IsHeader line := by
  refine ⟨h.isLine, fun hblank => ?_⟩
  have heffect := effect_of_givesLength h
  rw [effect_of_fits h.fits, readHeaderLine_eq_blank_iff.2 hblank] at heffect
  cases heffect

/-- A header with the name of the length gives one, or the headers are refused for it. -/
theorem effect_of_namesLength (h : NamesLength line) :
    (∃ e, effect line = .error e) ∨ ∃ n, effect line = .ok (.length n) := by
  obtain ⟨name, value, rfl, hname⟩ := h
  obtain ⟨lengthName, hlength, hsame⟩ := hname.decode?
  unfold effect
  split
  · exact .inl ⟨_, rfl⟩
  · rw [readHeaderLine_field hname.colon_notMem, hlength]
    cases decode? value with
    | none => exact .inl ⟨_, rfl⟩
    | some v =>
      simp only [readField, hsame, if_true]
      cases Text.word (Text.trim v.toList) with
      | ok n => exact .inr ⟨n, rfl⟩
      | error reason => exact .inl ⟨_, rfl⟩

/-- A line says nothing about the length just when it is another header. -/
theorem isOther_iff : IsOther line ↔ IsLine line ∧ effect line = .ok .other := by
  constructor
  · exact fun h => ⟨h.isLine, effect_of_isOther h⟩
  · rintro ⟨hline, heffect⟩
    have hfits : line.length ≤ maxHeaderLineBytes := by
      rw [← Nat.not_lt]
      intro hlong
      rw [effect, if_pos hlong] at heffect
      cases heffect
    have hread : readHeaderLine line = .ok .other := effect_of_fits hfits ▸ heffect
    refine ⟨hline, hfits, ?_, ?_, ?_⟩
    · intro hnone
      rw [readHeaderLine, hnone] at hread
      cases hread
    · intro hblank
      rw [readHeaderLine_eq_blank_iff.2 hblank] at hread
      cases hread
    · intro hnames
      rcases effect_of_namesLength hnames with ⟨e, he⟩ | ⟨n, hn⟩
      · cases he.symm.trans heffect
      · cases hn.symm.trans heffect

/-! ## Other spellings of a line -/

/-- Blanks that do not end a line. -/
structure AreBlanks (bytes : Bytes) : Prop where
  noLineFeed : lineFeed ∉ bytes
  blank : ∃ s, decode? bytes = some s ∧ ∀ c ∈ s.toList, Text.isBlank c = true

/-- The second line is the first with letters of its name in the other case, with blanks around its value as far as the
limit allows, or with a line feed alone at its end, unless this is what brings it within the limit. -/
inductive Respells : Bytes → Bytes → Prop where
  | case {name name' value : Bytes} (plain : colon ∉ name) (same : name'.map lowerByte = name.map lowerByte) :
    Respells (name ++ colon :: value) (name' ++ colon :: value)
  | blanks {name before value after ending : Bytes} (plain : colon ∉ name) (front : AreBlanks before)
    (back : AreBlanks after) (ends : ending = [13, lineFeed] ∨ ending = [lineFeed])
    (fits : (name ++ colon :: (before ++ value ++ after) ++ ending).length ≤ maxHeaderLineBytes) :
    Respells (name ++ colon :: value ++ ending) (name ++ colon :: (before ++ value ++ after) ++ ending)
  | lineFeed {front : Bytes} (notLast : front.length + 2 ≠ maxHeaderLineBytes + 1) :
    Respells (front ++ [13, lineFeed]) (front ++ [lineFeed])

theorem Respells.isLine (h : Respells line line') (hline : IsLine line) : IsLine line' := by
  cases h with
  | @case name name' value plain same =>
    rw [isLine_append_iff (List.cons_ne_nil _ _)] at hline ⊢
    rwa [Utf8.mem_iff_of_map_lowerByte (by decide) same]
  | @blanks name before value after ending plain front back ends fits =>
    have hne : ending ≠ [] := by
      rcases ends with rfl | rfl <;> simp
    rw [isLine_append_iff hne] at hline ⊢
    refine ⟨?_, hline.2⟩
    have hfeed := hline.1
    simp only [List.mem_append, List.mem_cons, not_or] at hfeed ⊢
    exact ⟨hfeed.1, hfeed.2.1, ⟨front.noLineFeed, hfeed.2.2⟩, back.noLineFeed⟩
  | @lineFeed front notLast =>
    rw [isLine_append_iff (by simp)] at hline ⊢
    exact ⟨hline.1, [], List.not_mem_nil, rfl⟩

theorem readHeaderLine_append_ending {ending : Bytes} (h : ending = [13, lineFeed] ∨ ending = [lineFeed])
    (front : Bytes) : readHeaderLine (front ++ ending) = readHeaderLine front := by
  rcases h with rfl | rfl
  · exact readHeaderLine_append_ends (t := ['\r', '\n']) (List.all_eq_true.1 (by decide)) front
  · exact readHeaderLine_append_ends (t := ['\n']) (List.all_eq_true.1 (by decide)) front

/-- Blanks around a value are trimmed off. -/
theorem readHeaderLine_blanks (plain : colon ∉ name) (front : AreBlanks before) (back : AreBlanks after)
    (value : Bytes) :
    readHeaderLine (name ++ colon :: (before ++ value ++ after)) = readHeaderLine (name ++ colon :: value) := by
  obtain ⟨s, hs, hblank⟩ := front.blank
  obtain ⟨t, ht, hblank'⟩ := back.blank
  have hbegins : Utf8.Begins after := Utf8.begins_of_decode? (by simp [ht])
  rw [readHeaderLine_field plain, readHeaderLine_field plain, Utf8.decode?_append (.inl hbegins),
    Utf8.decode?_append (.inr (by simp [hs])), hs, ht]
  cases decode? name with
  | none => rfl
  | some n =>
    cases decode? value with
    | none => rfl
    | some v =>
      have htrim : Text.trim (s ++ v ++ t).toList = Text.trim v.toList := by
        rw [String.toList_append, String.toList_append, Text.trim_append_blanks hblank', Text.trim_blanks_append hblank]
      simp only [Option.bind_some, Option.map_some, readField, htrim]

/-- The case of its letters does not matter to a name. -/
theorem readField_congr {s t : List Char} (h : s.map Char.toLower = t.map Char.toLower) (value : List Char) :
    readField s value = readField t value := by
  simp only [readField, Text.sameIgnoringAsciiCase, String.toList_ofList, h]

theorem Respells.readHeaderLine_eq (h : Respells line line') : readHeaderLine line' = readHeaderLine line := by
  cases h with
  | @case name name' value plain same =>
    have hplain : colon ∉ name' := by
      rwa [Utf8.mem_iff_of_map_lowerByte (by decide) same]
    have hname := Utf8.decode?_map_lowerByte name'
    rw [same, Utf8.decode?_map_lowerByte name] at hname
    rw [readHeaderLine_field plain, readHeaderLine_field hplain]
    cases hn : decode? name with
    | none =>
      rw [hn, Option.map_none, eq_comm, Option.map_eq_none_iff] at hname
      rw [hname]
    | some n =>
      rw [hn, Option.map_some, eq_comm, Option.map_eq_some_iff] at hname
      obtain ⟨n', hn', hlower⟩ := hname
      rw [hn']
      cases decode? value with
      | none => rfl
      | some v => exact readField_congr hlower v.toList
  | @blanks name before value after ending plain front back ends fits =>
    rw [readHeaderLine_append_ending ends, readHeaderLine_append_ending ends, readHeaderLine_blanks plain front back]
  | @lineFeed front notLast =>
    rw [readHeaderLine_append_ending (.inr rfl), readHeaderLine_append_ending (.inl rfl)]

theorem Respells.isBlank_iff (h : Respells line line') : IsBlank line' ↔ IsBlank line := by
  rw [← readHeaderLine_eq_blank_iff, h.readHeaderLine_eq, readHeaderLine_eq_blank_iff]

theorem Respells.effect_eq (h : Respells line line') : effect line' = effect line := by
  have hlong : maxHeaderLineBytes < line'.length ↔ maxHeaderLineBytes < line.length := by
    cases h with
    | @case name name' value plain same =>
      have hlength := congrArg List.length same
      simp only [List.length_map] at hlength
      simp only [List.length_append, hlength]
    | blanks plain front back ends fits =>
      simp only [List.length_append, List.length_cons] at fits ⊢
      omega
    | lineFeed notLast =>
      simp only [List.length_append, List.length_cons, List.length_nil]
      omega
  rw [effect, effect, h.readHeaderLine_eq]
  simp only [hlong]

/-! ## Other headers -/

/-- The second headers are the first with one line more that is no header of the length, with one length more before the
last, or with one line in another spelling. -/
inductive Rewrites : List Bytes → List Bytes → Prop where
  | other {before after : List Bytes} {line : Bytes} (other : IsOther line) :
    Rewrites (before ++ after) (before ++ line :: after)
  | earlier {before after : List Bytes} {line : Bytes} {n : Nat} (gives : GivesLength line n)
    (later : ∃ last ∈ after, NamesLength last) : Rewrites (before ++ after) (before ++ line :: after)
  | respelled {before after : List Bytes} {line line' : Bytes} (respells : Respells line line') :
    Rewrites (before ++ line :: after) (before ++ line' :: after)

/-- After the last length it does not matter which one stood before it. -/
theorem foldlM_keep_of_namesLength (h : ∃ last ∈ lines, NamesLength last) (length length' : Option Nat) :
    lines.foldlM keep length = lines.foldlM keep length' := by
  induction lines generalizing length length' with
  | nil =>
    obtain ⟨last, hlast, -⟩ := h
    cases hlast
  | cons line lines ih =>
    obtain ⟨last, hlast, hnames⟩ := h
    rw [List.foldlM_cons, List.foldlM_cons]
    rcases List.mem_cons.1 hlast with rfl | hlater
    · -- this line makes the two lengths one, or ends the headers for both
      rcases effect_of_namesLength hnames with ⟨e, he⟩ | ⟨n, hn⟩
      · rw [keep, keep, he]
        rfl
      · rw [keep, keep, hn]
        rfl
    · cases heffect : effect line with
      | error e =>
        rw [keep, keep, heffect]
        rfl
      | ok header =>
        rw [keep, keep, heffect]
        exact ih ⟨last, hlater, hnames⟩ _ _

theorem Rewrites.isHeader (h : Rewrites lines lines') (hlines : ∀ line ∈ lines, IsHeader line) :
    ∀ line ∈ lines', IsHeader line := by
  cases h with
  | @other before after line other =>
    rw [List.forall_mem_append] at hlines
    rw [List.forall_mem_append, List.forall_mem_cons]
    exact ⟨hlines.1, other.isHeader, hlines.2⟩
  | @earlier before after line n gives later =>
    rw [List.forall_mem_append] at hlines
    rw [List.forall_mem_append, List.forall_mem_cons]
    exact ⟨hlines.1, gives.isHeader, hlines.2⟩
  | @respelled before after line line' respells =>
    rw [List.forall_mem_append, List.forall_mem_cons] at hlines ⊢
    obtain ⟨hbefore, hheader, hafter⟩ := hlines
    exact ⟨hbefore, ⟨respells.isLine hheader.isLine, mt respells.isBlank_iff.1 hheader.notBlank⟩, hafter⟩

theorem Rewrites.foldlM_eq (h : Rewrites lines lines') (length : Option Nat) :
    lines'.foldlM keep length = lines.foldlM keep length := by
  cases h with
  | @other before after line other =>
    rw [List.foldlM_append, List.foldlM_append]
    simp only [List.foldlM_cons, keep, effect_of_isOther other]
    rfl
  | @earlier before after line n gives later =>
    rw [List.foldlM_append, List.foldlM_append]
    have hlater : ∀ m, (line :: after).foldlM keep m = after.foldlM keep m := by
      intro m
      rw [List.foldlM_cons, keep, effect_of_givesLength gives]
      exact foldlM_keep_of_namesLength later (some n) m
    simp only [hlater]
  | @respelled before after line line' respells =>
    rw [List.foldlM_append, List.foldlM_append]
    simp only [List.foldlM_cons, keep, respells.effect_eq]

/-- Rewritten headers are headers, and the length that they come to is the same. -/
theorem rewrites_run (h : Relation.ReflTransGen Rewrites lines lines') (hlines : ∀ line ∈ lines, IsHeader line) :
    (∀ line ∈ lines', IsHeader line) ∧ lines'.foldlM keep none = lines.foldlM keep none := by
  induction h with
  | refl => exact ⟨hlines, rfl⟩
  | tail _ hstep ih => exact ⟨hstep.isHeader ih.1, (hstep.foldlM_eq none).trans ih.2⟩

/-- The blank line may be respelled, too. -/
theorem respells_run (h : Relation.ReflTransGen Respells blank blank') (hline : IsLine blank) (hblank : IsBlank blank) :
    IsLine blank' ∧ IsBlank blank' ∧ effect blank' = effect blank := by
  induction h with
  | refl => exact ⟨hline, hblank, rfl⟩
  | tail _ hstep ih =>
    obtain ⟨hline', hblank', heffect⟩ := ih
    exact ⟨hstep.isLine hline', hstep.isBlank_iff.2 hblank', hstep.effect_eq.trans heffect⟩

/-! ## Whole frames -/

/-- The headers give this length: each of them is another header or gives a length, and the last of these gives this. -/
inductive HeadersGive (n : Nat) : List Bytes → Prop where
  | last {line : Bytes} {lines : List Bytes} (gives : GivesLength line n) (others : ∀ line ∈ lines, IsOther line) :
    HeadersGive n (line :: lines)
  | before {line : Bytes} {lines : List Bytes} (readable : IsOther line ∨ ∃ m, GivesLength line m)
    (rest : HeadersGive n lines) : HeadersGive n (line :: lines)

theorem HeadersGive.isHeader (h : HeadersGive n lines) : ∀ line ∈ lines, IsHeader line := by
  induction h with
  | last gives others =>
    rw [List.forall_mem_cons]
    exact ⟨gives.isHeader, fun line hline => (others line hline).isHeader⟩
  | before readable _ ih =>
    rw [List.forall_mem_cons]
    refine ⟨?_, ih⟩
    rcases readable with other | ⟨m, gives⟩
    · exact other.isHeader
    · exact gives.isHeader

theorem foldlM_keep_of_isOther (h : ∀ line ∈ lines, IsOther line) (length : Option Nat) :
    lines.foldlM keep length = .ok length := by
  induction lines with
  | nil => rfl
  | cons line lines ih =>
    rw [List.forall_mem_cons] at h
    rw [List.foldlM_cons, keep, effect_of_isOther h.1]
    exact ih h.2

theorem HeadersGive.foldlM_eq (h : HeadersGive n lines) (length : Option Nat) :
    lines.foldlM keep length = .ok (some n) := by
  induction h generalizing length with
  | last gives others =>
    rw [List.foldlM_cons, keep, effect_of_givesLength gives]
    exact foldlM_keep_of_isOther others (some n)
  | before readable _ ih =>
    rw [List.foldlM_cons, keep]
    rcases readable with other | ⟨m, gives⟩
    · rw [effect_of_isOther other]
      exact ih length
    · rw [effect_of_givesLength gives]
      exact ih (some m)

/-- A frame is read as the message in so many bytes as its headers give, and the bytes after these are left. -/
theorem readMessage_of_headersGive {headers : List Bytes} {json rest : Bytes} {message : Json}
    (hgive : HeadersGive json.length headers) (hline : IsLine blank) (hblank : IsBlank blank)
    (hfits : blank.length ≤ maxHeaderLineBytes) (hsize : json.length ≤ maxMessageBytes)
    (hjson : Json.parseBytes? json = some message) {input : Input}
    (hinput : input.flatten = headers.flatten ++ blank ++ (json ++ rest)) :
    readAndRest (readMessage input) = .ok (some (message, rest)) := by
  have heffect : effect blank = .ok .blank := by
    rw [effect_of_fits hfits, readHeaderLine_eq_blank_iff.2 hblank]
  have hread : readHeaders false none [headers.flatten ++ (blank ++ (json ++ rest))] =
      .ok (some (some json.length, [json ++ rest])) := by
    rw [readHeaders_lines hgive.isHeader hline hblank, hgive.foldlM_eq, heffect]
    rfl
  have hone : input.flatten = [headers.flatten ++ (blank ++ (json ++ rest))].flatten := by
    rw [hinput, List.flatten_singleton, List.append_assoc]
  rw [readMessage_congr hone, readMessage, hread]
  simp only [readBody_append hsize hjson, Except.map, readAndRest, Option.map_some, joinRest, List.flatten_singleton]

/-- A frame is read alike, and leaves the same bytes after it, when other headers are put before the blank line, other
lengths before the last one, and its lines are spelled with letters of the other case in the name, with more blanks
around the value or with a line feed alone at the end, all within the limit of a line. So it is read as its message, if
its headers gave the length of this before. -/
theorem readMessage_of_rewrites {headers headers' : List Bytes} (hheaders : ∀ line ∈ headers, IsHeader line)
    (hline : IsLine blank) (hblank : IsBlank blank) (hrewrites : Relation.ReflTransGen Rewrites headers headers')
    (hends : Relation.ReflTransGen Respells blank blank') {a b : Input}
    (ha : a.flatten = headers.flatten ++ blank ++ body) (hb : b.flatten = headers'.flatten ++ blank' ++ body) :
    readAndRest (readMessage b) = readAndRest (readMessage a) ∧
      ∀ json rest message, body = json ++ rest → HeadersGive json.length headers →
        blank.length ≤ maxHeaderLineBytes → json.length ≤ maxMessageBytes → Json.parseBytes? json = some message →
        readAndRest (readMessage b) = .ok (some (message, rest)) := by
  obtain ⟨hheaders', hlength⟩ := rewrites_run hrewrites hheaders
  obtain ⟨hline', hblank', heffect⟩ := respells_run hends hline hblank
  have hread : readHeaders false none [headers'.flatten ++ (blank' ++ body)] =
      readHeaders false none [headers.flatten ++ (blank ++ body)] := by
    rw [readHeaders_lines hheaders' hline' hblank', readHeaders_lines hheaders hline hblank, hlength, heffect]
  have ha' : a.flatten = [headers.flatten ++ (blank ++ body)].flatten := by
    rw [ha, List.flatten_singleton, List.append_assoc]
  have hb' : b.flatten = [headers'.flatten ++ (blank' ++ body)].flatten := by
    rw [hb, List.flatten_singleton, List.append_assoc]
  have hsame : readAndRest (readMessage b) = readAndRest (readMessage a) := by
    rw [readMessage_congr ha', readMessage_congr hb', readMessage, readMessage, hread]
  refine ⟨hsame, ?_⟩
  rintro json rest message rfl hgive hfits hsize hjson
  rw [hsame]
  exact readMessage_of_headersGive hgive hline hblank hfits hsize hjson ha

namespace Sample

/-- The frame of `null` with a header and a length in front of its own, which is spelled otherwise. -/
def respelled : Bytes := ascii "X\ncontent-length: 9\nCONTENT-LENGTH:\t 4 \n\nnull".toList

theorem rewrites_respelled : Relation.ReflTransGen Rewrites [ascii "Content-Length: 4\r\n".toList]
    [ascii "X\n".toList, ascii "content-length: 9\n".toList, ascii "CONTENT-LENGTH:\t 4 \n".toList] := by
  have hcase : Respells (ascii "Content-Length: 4\r\n".toList) (ascii "CONTENT-LENGTH: 4\r\n".toList) :=
    @Respells.case (ascii "Content-Length".toList) (ascii "CONTENT-LENGTH".toList) (ascii " 4\r\n".toList) (by decide)
      (by decide)
  have hblanks : Respells (ascii "CONTENT-LENGTH: 4\r\n".toList) (ascii "CONTENT-LENGTH:\t 4 \r\n".toList) :=
    @Respells.blanks (ascii "CONTENT-LENGTH".toList) [9] [32, 52] [32] [13, lineFeed] (by decide)
      ⟨by decide, "\t", by decide +kernel, List.all_eq_true.1 (by decide)⟩
      ⟨by decide, " ", by decide +kernel, List.all_eq_true.1 (by decide)⟩ (.inl rfl) (by decide)
  have hfeed : Respells (ascii "CONTENT-LENGTH:\t 4 \r\n".toList) (ascii "CONTENT-LENGTH:\t 4 \n".toList) :=
    @Respells.lineFeed (ascii "CONTENT-LENGTH:\t 4 ".toList) (by decide)
  have hearlier : GivesLength (ascii "content-length: 9\n".toList) 9 := by
    refine ⟨⟨ascii "content-length: 9".toList, by decide, by decide +kernel⟩, by decide, ?_⟩
    exact ⟨ascii "content-length".toList, ascii " 9\n".toList, " 9\n", by decide +kernel, by decide, by decide +kernel,
      by decide +kernel⟩
  have hother : IsOther (ascii "X\n".toList) := by
    rw [isOther_iff]
    exact ⟨⟨ascii "X".toList, by decide, by decide +kernel⟩, by decide +kernel⟩
  have hlast : NamesLength (ascii "CONTENT-LENGTH:\t 4 \n".toList) :=
    ⟨ascii "CONTENT-LENGTH".toList, ascii "\t 4 \n".toList, by decide +kernel, by decide⟩
  have hspelled : Relation.ReflTransGen Rewrites [ascii "Content-Length: 4\r\n".toList]
      [ascii "CONTENT-LENGTH:\t 4 \n".toList] :=
    .tail (.tail (.single (@Rewrites.respelled [] [] _ _ hcase)) (@Rewrites.respelled [] [] _ _ hblanks))
      (@Rewrites.respelled [] [] _ _ hfeed)
  exact .tail (.tail hspelled (@Rewrites.earlier [] _ _ 9 hearlier ⟨_, List.mem_singleton_self _, hlast⟩))
    (@Rewrites.other [] _ _ hother)

end Sample

/-- The frame is read as if its own header were written as usual and stood alone. -/
theorem readMessage_of_rewrites_respelled : readAndRest (readMessage [Sample.respelled]) = .ok (some (.null, [])) := by
  have hgives : GivesLength (ascii "Content-Length: 4\r\n".toList) 4 := by
    refine ⟨⟨ascii "Content-Length: 4\r".toList, by decide, by decide +kernel⟩, by decide, ?_⟩
    exact ⟨ascii "Content-Length".toList, ascii " 4\r\n".toList, " 4\r\n", by decide +kernel, by decide,
      by decide +kernel, by decide +kernel⟩
  have hblank : IsBlank [13, lineFeed] := by
    rw [← readHeaderLine_eq_blank_iff]
    decide +kernel
  have hends : Relation.ReflTransGen Respells [13, lineFeed] [lineFeed] := .single (@Respells.lineFeed [] (by decide))
  have hrespelled : [Sample.respelled].flatten =
      [ascii "X\n".toList, ascii "content-length: 9\n".toList, ascii "CONTENT-LENGTH:\t 4 \n".toList].flatten ++
        [lineFeed] ++ ascii "null".toList := by
    decide +kernel
  have hgive : HeadersGive 4 [ascii "Content-Length: 4\r\n".toList] := .last hgives (by simp)
  obtain ⟨-, hread⟩ := readMessage_of_rewrites hgive.isHeader ⟨[13], by decide, rfl⟩ hblank Sample.rewrites_respelled
    hends List.flatten_singleton hrespelled
  exact hread (ascii "null".toList) [] .null (List.append_nil _).symm hgive (by decide) (by decide) (by decide +kernel)

namespace Sample

/-- A header without a value; with a carriage return and a line feed after it the line is one byte too long. -/
def longName : Bytes := ascii (List.replicate 8191 'A')

end Sample

theorem eq_of_mem_longName {byte : UInt8} (h : byte ∈ Sample.longName) : byte = 65 := by
  obtain ⟨c, hc, rfl⟩ := List.mem_map.1 h
  rw [List.eq_of_mem_replicate hc]
  rfl

theorem length_longName : Sample.longName.length = 8191 := by
  rw [Sample.longName, ascii, List.length_map, List.length_replicate]

theorem readHeaderLine_longName : readHeaderLine Sample.longName = .ok .other := by
  have hascii : IsAscii (List.replicate 8191 'A') := by
    intro c hc
    rw [List.eq_of_mem_replicate hc]
    decide
  have hcolon : colon ∉ Sample.longName := fun hmem => absurd (eq_of_mem_longName hmem) (by decide)
  rw [readHeaderLine_plain hcolon, Sample.longName, Utf8.decode?_ascii hascii]
  simp only [String.toList_ofList, List.all_replicate]
  rw [if_neg (by decide)]

theorem isHeader_longName {ending : Bytes} (h : ending = [13, lineFeed] ∨ ending = [lineFeed]) :
    IsHeader (Sample.longName ++ ending) := by
  have hfeed : lineFeed ∉ Sample.longName := fun hmem => absurd (eq_of_mem_longName hmem) (by decide)
  constructor
  · rcases h with rfl | rfl
    · rw [isLine_append_iff (by simp)]
      exact ⟨hfeed, [13], by decide, rfl⟩
    · exact ⟨Sample.longName, hfeed, rfl⟩
  · rw [← readHeaderLine_eq_blank_iff, readHeaderLine_append_ending h, readHeaderLine_longName]
    exact fun heq => by cases heq

/-- Where a line is one byte too long with its carriage return, it is read with a line feed alone, but not with both. -/
theorem lineFeed_not_always_same :
    IsHeader (Sample.longName ++ [13, lineFeed]) ∧ IsHeader (Sample.longName ++ [lineFeed]) ∧
      readAndRest (readMessage [Sample.longName ++ [13, lineFeed] ++ frame .null]) = .error .headerTooLong ∧
      readAndRest (readMessage [Sample.longName ++ [lineFeed] ++ frame .null]) = .ok (some (.null, [])) := by
  have hboth : IsHeader (Sample.longName ++ [13, lineFeed]) := isHeader_longName (.inl rfl)
  have hfeed : IsHeader (Sample.longName ++ [lineFeed]) := isHeader_longName (.inr rfl)
  have hlong : effect (Sample.longName ++ [13, lineFeed]) = .error .headerTooLong := by
    rw [effect, if_pos]
    rw [List.length_append, length_longName]
    decide
  have hfits : effect (Sample.longName ++ [lineFeed]) = .ok .other := by
    rw [effect_of_fits, readHeaderLine_append_ending (.inr rfl), readHeaderLine_longName]
    rw [List.length_append, length_longName]
    decide
  refine ⟨hboth, hfeed, ?_, ?_⟩
  · rw [readMessage, readHeaders_line hboth.isLine, hlong]
    rfl
  · have hframe : readHeaders true none [frame .null] = readHeaders false none [frame .null] := by
      rw [frame_eq, readHeaders_lengthLine (by decide +kernel), readHeaders_lengthLine (by decide +kernel)]
    have hplain : readMessage [frame .null ++ []] = .ok (some (.null, [[]])) :=
      readMessage_frame (by decide +kernel) (by decide +kernel) []
    rw [List.append_nil, readMessage] at hplain
    rw [readMessage, readHeaders_line hfeed.isLine, hfits]
    dsimp only
    rw [hframe, hplain]
    rfl

end TemplateDebug.Dap
