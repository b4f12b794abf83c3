import Mathlib.Data.List.Basic
import TemplateDebug.Proofs.Dap.Chunks
import TemplateDebug.Proofs.Text.Ascii
/-!
# Frames read back

Frames written one after the other are read back as the messages they were written for, one whole frame at a time. A
stream that is cut off anywhere gives the messages of its whole frames. It ends well where the cut falls between two
frames; within a frame, be it in the headers, in the number, between the two characters of a line end or in the body,
the cut is an error.
-/

namespace TemplateDebug.Dap

open Utf8 (ascii IsAscii)

variable {message : Json} {n : Nat} {cut : Bytes} {started : Bool} {length : Option Nat}

/-! ## The line with the length -/

/-- The header line for a length, without its line feed. -/
def lengthText (n : Nat) : List Char := lengthHeader.toList ++ ':' :: ' ' :: Nat.toDigits 10 n ++ ['\r']

/-- The bytes of this line. -/
def lengthLine (n : Nat) : Bytes := ascii (lengthText n) ++ [lineFeed]

theorem isAscii_lengthText (n : Nat) : IsAscii (lengthText n) := by
  have hname : lengthHeader.toList.all (·.toNat < 128) = true := by decide
  intro c hc
  simp only [lengthText, List.mem_append, List.mem_cons, List.not_mem_nil, or_false] at hc
  rcases hc with (hc | rfl | rfl | hc) | rfl
  · exact of_decide_eq_true (List.all_eq_true.1 hname c hc)
  · decide
  · decide
  · have := Text.toNat_of_isDigit (Text.isDigit_of_mem_toDigits hc)
    omega
  · decide

theorem isAscii_append {cs ds : List Char} (hc : IsAscii cs) (hd : IsAscii ds) : IsAscii (cs ++ ds) :=
  List.forall_mem_append.2 ⟨hc, hd⟩

/-- A frame is the line with the length, a blank line, and the body. -/
theorem frame_eq (message : Json) : frame message =
    lengthLine (Utf8.encode message.render).length ++ 13 :: lineFeed :: Utf8.encode message.render := by
  have htext : ∀ n : Nat, lengthHeader ++ ": " ++ toString n ++ "\r\n\r\n" =
      String.ofList (lengthText n ++ ['\n', '\r', '\n']) := by
    intro n
    apply String.toList_injective
    simp [lengthText, Nat.toList_repr]
  have hascii : ∀ n : Nat, IsAscii (lengthText n ++ ['\n', '\r', '\n']) := fun n =>
    isAscii_append (isAscii_lengthText n) (by simp [IsAscii])
  rw [frame, htext, Utf8.encode_ascii (hascii _)]
  simp [lengthLine, ascii, lineFeed]

theorem lineFeed_notMem_lengthText (n : Nat) : lineFeed ∉ ascii (lengthText n) := by
  have hname : lengthHeader.toList.all (UInt8.ofNat ·.toNat ≠ lineFeed) = true := by decide
  simp only [ascii, List.mem_map, not_exists, not_and]
  intro c hc
  simp only [lengthText, List.mem_append, List.mem_cons, List.not_mem_nil, or_false] at hc
  rcases hc with (hc | rfl | rfl | hc) | rfl
  · exact of_decide_eq_true (List.all_eq_true.1 hname c hc)
  · decide
  · decide
  · have hbounds := Text.toNat_of_isDigit (Text.isDigit_of_mem_toDigits hc)
    intro heq
    have := congrArg UInt8.toNat heq
    rw [UInt8.toNat_ofNat'] at this
    simp [lineFeed] at this
    omega
  · decide

/-! ### Its text -/

theorem dropLineEnds_append_ends {ends : List Char} (h : ∀ c ∈ ends, isLineEnd c = true) (s : List Char) :
    dropLineEnds (s ++ ends) = dropLineEnds s := by
  have hreverse : ∀ c ∈ ends.reverse, isLineEnd c = true := fun c hc => h c (List.mem_reverse.1 hc)
  rw [dropLineEnds, List.reverse_append, List.dropWhile_append_of_pos hreverse]
  rfl

theorem dropLineEnds_append {s ends : List Char} (hends : ∀ c ∈ ends, isLineEnd c = true)
    (hs : ∀ c, s.getLast? = some c → isLineEnd c = false) : dropLineEnds (s ++ ends) = s := by
  rw [dropLineEnds_append_ends hends, dropLineEnds]
  have hkeep : s.reverse.dropWhile isLineEnd = s.reverse := by
    cases hr : s.reverse with
    | nil => rfl
    | cons c cs =>
      have hlast : s.getLast? = some c := by rw [← List.head?_reverse, hr, List.head?_cons]
      rw [List.dropWhile_cons_of_neg (by simp [hs c hlast])]
  rw [hkeep, List.reverse_reverse]

theorem splitHeader?_colon {name : List Char} (h : ':' ∉ name) (value : List Char) :
    splitHeader? (name ++ ':' :: value) = some (name, value) := by
  rw [splitHeader?, (span_at h value).1, (span_at h value).2]

theorem dropBlanks_eq_self {s : List Char} (h : ∀ c ∈ s, Text.isBlank c = false) : Text.dropBlanks s = s := by
  cases s with
  | nil => rfl
  | cons c s => rw [Text.dropBlanks, List.dropWhile_cons_of_neg (by simp [h c List.mem_cons_self])]

theorem trim_space_cons {s : List Char} (h : ∀ c ∈ s, Text.isBlank c = false) : Text.trim (' ' :: s) = s := by
  have hspace : Text.dropBlanks (' ' :: s) = Text.dropBlanks s := List.dropWhile_cons_of_pos (by decide)
  rw [Text.trim, hspace, dropBlanks_eq_self h, dropBlanks_eq_self fun c hc => h c (List.mem_reverse.1 hc),
    List.reverse_reverse]

theorem isBlank_of_isDigit {c : Char} (h : c.isDigit = true) : Text.isBlank c = false := by
  rw [← Bool.not_eq_true]
  intro hblank
  simpa [Text.isDigit, h] using Text.isDigit_of_isBlank hblank

theorem readHeaderText_length (h : n < wordBound) : readHeaderText (lengthText n ++ ['\n']) = .ok (.length n) := by
  have hdigit : ∀ c ∈ Nat.toDigits 10 n, c.isDigit = true := fun c hc => Text.isDigit_of_mem_toDigits hc
  have hdrop : dropLineEnds (lengthText n ++ ['\n']) = lengthHeader.toList ++ ':' :: ' ' :: Nat.toDigits 10 n := by
    rw [lengthText, List.append_assoc _ ['\r'] ['\n']]
    refine dropLineEnds_append (by simp [isLineEnd]) fun c hc => ?_
    -- the text ends in a digit
    rw [List.getLast?_append_of_ne_nil _ (by simp)] at hc
    have hmem : c ∈ Nat.toDigits 10 n := by
      rw [List.getLast?_cons_cons, List.getLast?_cons, List.getLast?_eq_getLast_of_ne_nil Nat.toDigits_ne_nil] at hc
      cases hc
      exact List.getLast_mem _
    have hbounds := Text.toNat_of_isDigit (hdigit c hmem)
    simp only [isLineEnd, Bool.or_eq_false_iff, decide_eq_false_iff_not]
    constructor <;> rintro rfl <;> revert hbounds <;> decide
  have hvalue : Text.trim (' ' :: Nat.toDigits 10 n) = Nat.toDigits 10 n :=
    trim_space_cons fun c hc => isBlank_of_isDigit (hdigit c hc)
  have hname : Text.sameIgnoringAsciiCase (String.ofList lengthHeader.toList) lengthHeader = true := by decide
  rw [readHeaderText, hdrop]
  simp only [splitHeader?_colon (show ':' ∉ lengthHeader.toList by decide), hname, hvalue, Text.word_toDigits h]
  simp

theorem readHeaderLine_lengthLine (h : n < wordBound) : readHeaderLine (lengthLine n) = .ok (.length n) := by
  have hbytes : lengthLine n = ascii (lengthText n ++ ['\n']) := by simp [lengthLine, ascii, lineFeed]
  have hascii : IsAscii (lengthText n ++ ['\n']) := isAscii_append (isAscii_lengthText n) (by simp [IsAscii])
  rw [hbytes, readHeaderLine, Utf8.decode?_ascii hascii]
  simp only [String.toList_ofList, readHeaderText_length h]

/-! ## A whole frame -/

/-- The length of a message that may be read has eight digits at most. -/
theorem length_lengthText_le (h : n ≤ maxMessageBytes) : (lengthText n).length < maxHeaderLineBytes := by
  have hdigits : (Nat.toDigits 10 n).length ≤ 8 :=
    (Nat.length_toDigits_le_iff (by omega) (by omega)).2 (Nat.lt_of_le_of_lt h (by decide))
  have hname : lengthHeader.toList.length = 14 := by decide
  simp only [lengthText, List.length_append, List.length_cons, List.length_nil, hname, maxHeaderLineBytes]
  omega

theorem takeLine_lengthLine (h : n ≤ maxMessageBytes) (rest : Bytes) :
    takeLine [lengthLine n ++ rest] = .ok (some (lengthLine n), [rest]) := by
  have hlength : (ascii (lengthText n)).length = (lengthText n).length := List.length_map _
  rw [lengthLine, List.append_assoc, List.singleton_append, takeLine, takeLineFrom_end (lineFeed_notMem_lengthText n),
    if_neg (by have := length_lengthText_le h; rw [List.nil_append]; omega)]
  rfl

theorem readHeaders_lengthLine (h : n ≤ maxMessageBytes) (started : Bool) (length : Option Nat) (rest : Bytes) :
    readHeaders started length [lengthLine n ++ rest] = readHeaders true (some n) [rest] := by
  have hword : n < wordBound := Nat.lt_of_le_of_lt h (by decide)
  rw [readHeaders_eq, takeLine_lengthLine h]
  simp only [readHeaderLine_lengthLine hword]

/-- The blank line ends the headers. -/
theorem readHeaders_blankLine (started : Bool) (length : Option Nat) (rest : Bytes) :
    readHeaders started length [13 :: lineFeed :: rest] = .ok (some (length, [rest])) := by
  have hline : takeLine [13 :: lineFeed :: rest] = .ok (some [13, lineFeed], [rest]) :=
    takeLineFrom_end (show lineFeed ∉ [13] by decide) [] rest []
  have hblank : readHeaderLine [13, lineFeed] = .ok .blank := by decide +kernel
  rw [readHeaders_eq, hline]
  simp only [hblank]

theorem readBody_append {body : Bytes} (hfit : body.length ≤ maxMessageBytes)
    (hjson : Json.parseBytes? body = some message) (rest : Bytes) :
    readBody body.length [body ++ rest] = .ok (message, [rest]) := by
  have hbody : takeBytes body.length [body ++ rest] = some (body, [rest]) := by simp [takeBytes]
  rw [readBody, if_neg (Nat.not_lt.2 hfit), hbody]
  simp only [hjson]

/-- A frame at the front of a stream is read as its message, and nothing after it is touched. -/
theorem readMessage_frame (hfit : (Utf8.encode message.render).length ≤ maxMessageBytes)
    (hjson : Json.parseBytes? (Utf8.encode message.render) = some message) (rest : Bytes) :
    readMessage [frame message ++ rest] = .ok (some (message, [rest])) := by
  have hheaders : readHeaders false none [frame message ++ rest] =
      .ok (some (some (Utf8.encode message.render).length, [Utf8.encode message.render ++ rest])) := by
    rw [frame_eq, List.append_assoc, readHeaders_lengthLine hfit, List.cons_append, List.cons_append,
      readHeaders_blankLine]
  rw [readMessage, hheaders]
  simp only [readBody_append hfit hjson, Except.map]

/-! ## A frame cut off -/

theorem readHeaders_end (length : Option Nat) {input : Input} (h : input.flatten = []) :
    readHeaders true length input = .error .headersCutOff := by
  have hend : readAndRest (readHeaders true length input) = .error .headersCutOff := by
    rw [readHeaders_congr (b := []) h, readHeaders_eq]
    rfl
  exact eq_error_of_map hend

/-- A line that is no blank one, at the end of the stream, leaves the headers open. -/
theorem readHeaders_lastLine (hne : cut ≠ []) (hline : lineFeed ∉ cut) (hblank : readHeaderLine cut ≠ .ok .blank) :
    ∃ e, readHeaders started length [cut] = .error e := by
  have htake : takeLine [cut] = .error .headerTooLong ∨ takeLine [cut] = .ok (some cut, []) := by
    rw [takeLine, takeLineFrom_open hline, List.nil_append]
    split
    · exact .inl rfl
    · exact .inr (by simp [takeLineFrom, hne])
  rw [readHeaders_eq]
  rcases htake with htake | htake <;> rw [htake]
  · exact ⟨_, rfl⟩
  · dsimp only
    cases hread : readHeaderLine cut with
    | error e => exact ⟨e, rfl⟩
    | ok header =>
      cases header with
      | blank => exact absurd hread hblank
      | length n => exact ⟨_, readHeaders_end _ rfl⟩
      | other => exact ⟨_, readHeaders_end _ rfl⟩

/-- Only line ends make a blank line. -/
theorem readHeaderText_eq_blank {line : List Char} (h : readHeaderText line = .ok .blank) :
    ∀ c ∈ line, isLineEnd c = true := by
  unfold readHeaderText at h
  simp only [List.isEmpty_iff] at h
  split at h
  · rename_i hempty
    rw [dropLineEnds, List.reverse_eq_nil_iff, List.dropWhile_eq_nil_iff] at hempty
    exact fun c hc => hempty c (List.mem_reverse.2 hc)
  · -- all other lines are something else, or at fault
    split at h
    · cases h
    · split at h
      · split at h <;> cases h
      · cases h

/-- What is cut off from the line with the length is not blank, as it begins with a letter. -/
theorem readHeaderLine_ne_blank (h : cut <+: ascii (lengthText n)) (hne : cut ≠ []) :
    readHeaderLine cut ≠ .ok .blank := by
  obtain ⟨text, ⟨after, hafter⟩, rfl⟩ := List.prefix_map_iff.1 h
  have hascii : IsAscii text := fun c hc => isAscii_lengthText n c (hafter ▸ List.mem_append_left after hc)
  rw [← ascii, readHeaderLine, Utf8.decode?_ascii hascii]
  intro hblank
  have hends := readHeaderText_eq_blank hblank
  rw [String.toList_ofList] at hends
  cases text with
  | nil => exact hne rfl
  | cons c text =>
    have hc : c = 'C' := (List.cons.inj hafter).1
    have hend := hends c List.mem_cons_self
    rw [hc] at hend
    exact absurd hend (by decide)

/-- A carriage return at the end of the stream counts as the blank line. -/
theorem readHeaders_loneReturn (started : Bool) (length : Option Nat) :
    readHeaders started length [[13]] = .ok (some (length, [])) := by
  have hline : takeLine [[13]] = .ok (some [13], []) := by decide +kernel
  have hblank : readHeaderLine [13] = .ok .blank := by decide +kernel
  rw [readHeaders_eq, hline]
  simp only [hblank]

theorem readBody_cut {input : Input} (hfit : n ≤ maxMessageBytes) (h : input.flatten.length < n) :
    readBody n input = .error .bodyCutOff := by
  have hbody : takeBytes n input = none := by
    rw [← Option.map_eq_none_iff (f := joinRest), takeBytes_eq, if_neg (Nat.not_le.2 h)]
  rw [readBody, if_neg (Nat.not_lt.2 hfit), hbody]

/-- What is cut off after the line with the length: the headers are open, or they are read and the body is missing. -/
theorem readHeaders_cut {body tail : Bytes} (hbody : body ≠ []) (h : tail <+: 13 :: lineFeed :: body)
    (hproper : tail ≠ 13 :: lineFeed :: body) :
    readHeaders true length [tail] = .error .headersCutOff ∨
      ∃ input : Input, readHeaders true length [tail] = .ok (some (length, input)) ∧
        input.flatten.length < body.length := by
  rcases List.prefix_cons_iff.1 h with rfl | ⟨afterReturn, rfl, hreturn⟩
  · exact .inl (readHeaders_end _ rfl)
  rcases List.prefix_cons_iff.1 hreturn with rfl | ⟨tail, rfl, htail⟩
  · exact .inr ⟨[], readHeaders_loneReturn true length, List.length_pos_iff.2 hbody⟩
  · have hlt : tail.length < body.length :=
      Nat.lt_of_le_of_ne htail.length_le fun heq => hproper (by rw [htail.eq_of_length heq])
    exact .inr ⟨[tail], readHeaders_blankLine true length tail, by simpa using hlt⟩

/-- A frame that is cut off is an error, wherever the cut falls. -/
theorem readMessage_cut (hfit : (Utf8.encode message.render).length ≤ maxMessageBytes)
    (hjson : Json.parseBytes? (Utf8.encode message.render) = some message) (hcut : cut <+: frame message)
    (hne : cut ≠ []) (hproper : cut ≠ frame message) : ∃ e, readMessage [cut] = .error e := by
  have hopen : (∃ e, readHeaders false none [cut] = .error e) → ∃ e, readMessage [cut] = .error e := by
    rintro ⟨e, he⟩
    exact ⟨e, by rw [readMessage, he]⟩
  have hbody : Utf8.encode message.render ≠ [] := by
    have hnothing : Json.parseBytes? [] = none := by decide +kernel
    intro hempty
    rw [hempty, hnothing] at hjson
    cases hjson
  rw [frame_eq] at hcut hproper
  rcases List.prefix_or_prefix_of_prefix hcut (List.prefix_append (lengthLine _) _) with hline | ⟨tail, rfl⟩
  · rcases List.prefix_concat_iff.1 hline with rfl | hline
    · -- between the two lines
      refine hopen ⟨.headersCutOff, ?_⟩
      rw [← lengthLine, ← List.append_nil (lengthLine _), readHeaders_lengthLine hfit, readHeaders_end _ rfl]
    · -- within the line with the length
      have hfeed : lineFeed ∉ cut := fun h => lineFeed_notMem_lengthText _ (hline.subset h)
      exact hopen (readHeaders_lastLine hne hfeed (readHeaderLine_ne_blank hline hne))
  · rw [List.prefix_append_right_inj] at hcut
    rcases readHeaders_cut hbody hcut (fun h => hproper (h ▸ rfl)) with hread | ⟨input, hread, hlt⟩
    · refine hopen ⟨.headersCutOff, ?_⟩
      rw [readHeaders_lengthLine hfit, hread]
    · refine ⟨.bodyCutOff, ?_⟩
      rw [readMessage, readHeaders_lengthLine hfit, hread]
      simp only [readBody_cut hfit hlt, Except.map]

/-! ## A stream cut off -/

/-- Of the frames of the messages, the bytes hold `j` whole ones. -/
structure WholeFrames (messages : List Json) (bytes : Bytes) (j : Nat) : Prop where
  le_length : j ≤ messages.length
  whole : frames (messages.take j) <+: bytes
  greatest : ∀ k ≤ messages.length, frames (messages.take k) <+: bytes → k ≤ j

variable {messages : List Json}

theorem frames_cons (message : Json) (messages : List Json) :
    frames (message :: messages) = frame message ++ frames messages := rfl

theorem WholeFrames.zero {bytes : Bytes} (h : ¬ frame message <+: bytes) :
    WholeFrames (message :: messages) bytes 0 := by
  refine ⟨Nat.zero_le _, List.nil_prefix, ?_⟩
  rintro (_ | k) - hprefix
  · exact Nat.le_refl _
  · rw [List.take_succ_cons, frames_cons] at hprefix
    exact absurd ((List.prefix_append _ _).trans hprefix) h

theorem WholeFrames.succ {rest : Bytes} {j : Nat} (h : WholeFrames messages rest j) :
    WholeFrames (message :: messages) (frame message ++ rest) (j + 1) := by
  refine ⟨Nat.succ_le_succ h.le_length, ?_, ?_⟩
  · rw [List.take_succ_cons, frames_cons, List.prefix_append_right_inj]
    exact h.whole
  · rintro (_ | k) hk hprefix
    · exact Nat.zero_le _
    · rw [List.take_succ_cons, frames_cons, List.prefix_append_right_inj] at hprefix
      exact Nat.succ_le_succ (h.greatest k (Nat.le_of_succ_le_succ hk) hprefix)

theorem readAll_empty : readAll [[]] = ([], none) := by
  have hmessage : readMessage [[]] = .ok none := by
    rw [readMessage, readHeaders_eq]
    rfl
  rw [readAll_eq, hmessage]

/-- A stream of frames that is cut off anywhere, and that arrives in any chunks, gives the messages of its whole frames.
It ends well if the cut falls between two frames, and in an error if it falls within one. -/
theorem readAll_prefix {input : Input}
    (hfit : ∀ m ∈ messages, (Utf8.encode m.render).length ≤ maxMessageBytes)
    (hjson : ∀ m ∈ messages, Json.parseBytes? (Utf8.encode m.render) = some m)
    (hcut : input.flatten <+: frames messages) :
    ∃ j, WholeFrames messages input.flatten j ∧ (readAll input).1 = messages.take j ∧
      ((readAll input).2 = none ↔ input.flatten = frames (messages.take j)) := by
  rw [readAll_congr (b := [input.flatten]) (by simp)]
  generalize input.flatten = bytes at hcut ⊢
  -- induction on the messages: the first is read whole, or the stream ends within its frame
  induction messages generalizing bytes with
  | nil =>
    obtain rfl : bytes = [] := List.prefix_nil.1 hcut
    exact ⟨0, ⟨Nat.le_refl _, List.prefix_refl _, fun k hk _ => hk⟩, by simp [readAll_empty, frames]⟩
  | cons message messages ih =>
    obtain ⟨hfit₀, hfit⟩ := List.forall_mem_cons.1 hfit
    obtain ⟨hjson₀, hjson⟩ := List.forall_mem_cons.1 hjson
    rw [frames_cons] at hcut
    by_cases hwhole : frame message <+: bytes
    · obtain ⟨rest, rfl⟩ := hwhole
      obtain ⟨j, hj, hread, hend⟩ := ih hfit hjson rest ((List.prefix_append_right_inj _).1 hcut)
      have hall : readAll [frame message ++ rest] = (message :: (readAll [rest]).1, (readAll [rest]).2) := by
        rw [readAll_eq, readMessage_frame hfit₀ hjson₀]
      refine ⟨j + 1, hj.succ, ?_, ?_⟩
      · rw [hall, hread, List.take_succ_cons]
      · rw [hall, hend, List.take_succ_cons, frames_cons, List.append_cancel_left_eq]
    · refine ⟨0, .zero hwhole, ?_⟩
      by_cases hne : bytes = []
      · subst hne
        simp [readAll_empty, frames]
      · have hwithin : bytes <+: frame message :=
          (List.prefix_or_prefix_of_prefix hcut (List.prefix_append _ _)).resolve_right hwhole
        obtain ⟨e, he⟩ := readMessage_cut hfit₀ hjson₀ hwithin hne fun heq => hwhole (heq ▸ List.prefix_refl _)
        rw [readAll_eq, he]
        simp [frames, hne]

/-- Two frames in two chunks, of which the second frame lacks its last byte. -/
def Sample.cutStream : Input :=
  [frame .null ++ (frame (.bool true)).take 5, ((frame (.bool true)).drop 5).dropLast]

theorem readAll_cutStream : (readAll Sample.cutStream).1 = [.null] ∧ (readAll Sample.cutStream).2 ≠ none := by
  have hcut : Sample.cutStream.flatten <+: frames [.null, .bool true] := by decide +kernel
  obtain ⟨j, hj, hread, hend⟩ := readAll_prefix (by decide +kernel) (by decide +kernel) hcut
  have hfirst : 1 ≤ j := hj.greatest 1 (by decide) (by decide +kernel)
  have hsecond : j ≠ 2 := by
    rintro rfl
    exact absurd hj.whole (by decide +kernel)
  obtain rfl : j = 1 := by
    have : j ≤ 2 := hj.le_length
    omega
  exact ⟨hread, fun hnone => absurd (hend.1 hnone) (by decide +kernel)⟩

end TemplateDebug.Dap
