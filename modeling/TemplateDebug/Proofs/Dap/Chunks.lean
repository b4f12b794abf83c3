import Mathlib.Data.List.TakeWhile
import TemplateDebug.Dap.Framing
/-!
# Streams and their chunks

How a stream is cut into chunks does not matter to what is read from it: two ways of cutting the same bytes give the
same line, the same bytes of a body, the same headers and the same messages, and leave the same bytes. In particular a
header line is refused for its length alone, wherever the cuts fall.
-/

namespace TemplateDebug.Dap

variable {α : Type} {line chunk front after : Bytes} {a b rest : Input}

/-- What was read, and the bytes that are left, put together. -/
def joinRest (r : α × Input) : α × Bytes := (r.1, r.2.flatten)

variable {β γ : Type} {r : Except FrameError β} {f : β → γ}

theorem eq_ok_of_map {x : γ} (h : r.map f = .ok x) : ∃ y, r = .ok y ∧ f y = x := by
  cases r with
  | error e => cases h
  | ok y => exact ⟨y, rfl, Except.ok.inj h⟩

theorem eq_error_of_map {e : FrameError} (h : r.map f = .error e) : r = .error e := by
  cases r with
  | error e' => cases h; rfl
  | ok y => cases h

/-! ## Lines -/

theorem ne_of_notMem {x : α} {l : List α} [DecidableEq α] (h : x ∉ l) : ∀ y ∈ l, decide (y ≠ x) = true :=
  fun _ hy => decide_eq_true fun heq => h (heq ▸ hy)

/-- What stands in front of the first `x`, and what begins with it. -/
theorem span_at {x : α} {l : List α} [DecidableEq α] (h : x ∉ l) (after : List α) :
    (l ++ x :: after).takeWhile (fun y => decide (y ≠ x)) = l ∧
      (l ++ x :: after).dropWhile (fun y => decide (y ≠ x)) = x :: after := by
  constructor
  · rw [List.takeWhile_append_of_pos (ne_of_notMem h), List.takeWhile_cons_of_neg (by simp), List.append_nil]
  · rw [List.dropWhile_append_of_pos (ne_of_notMem h), List.dropWhile_cons_of_neg (by simp)]

/-- A chunk without a line feed goes to the line that has begun. -/
theorem takeLineFrom_open (h : lineFeed ∉ chunk) (line : Bytes) (rest : Input) :
    takeLineFrom line (chunk :: rest) =
      if maxHeaderLineBytes < (line ++ chunk).length then .error .headerTooLong
      else takeLineFrom (line ++ chunk) rest := by
  have htake := List.takeWhile_eq_self_iff.2 (ne_of_notMem h)
  have hdrop := List.dropWhile_eq_nil_iff.2 (ne_of_notMem h)
  simp only [takeLineFrom, htake, hdrop]

/-- A chunk with a line feed ends the line. -/
theorem takeLineFrom_end (h : lineFeed ∉ front) (line after : Bytes) (rest : Input) :
    takeLineFrom line ((front ++ lineFeed :: after) :: rest) =
      if maxHeaderLineBytes < (line ++ front).length + 1 then .error .headerTooLong
      else .ok (some (line ++ front ++ [lineFeed]), after :: rest) := by
  simp only [takeLineFrom, (span_at h after).1, (span_at h after).2]

/-- A line, with the bytes that are left after it put together. -/
def lineAndRest (r : Except FrameError (Option Bytes × Input)) : Except FrameError (Option Bytes × Bytes) :=
  r.map joinRest

/-- A line that is too long already stays too long. -/
theorem takeLineFrom_tooLong (h : maxHeaderLineBytes < line.length) (bytes : Bytes) :
    takeLineFrom line [bytes] = .error .headerTooLong := by
  by_cases hb : lineFeed ∈ bytes
  · obtain ⟨front, after, rfl, hfront⟩ := List.eq_append_cons_of_mem hb
    rw [takeLineFrom_end hfront, if_pos]
    rw [List.length_append]
    omega
  · rw [takeLineFrom_open hb, if_pos]
    rw [List.length_append]
    omega

/-- A line is the same when all chunks are one. -/
theorem takeLineFrom_flatten (input : Input) :
    ∀ {line : Bytes}, line.length ≤ maxHeaderLineBytes →
      lineAndRest (takeLineFrom line input) = lineAndRest (takeLineFrom line [input.flatten]) := by
  induction input with
  | nil =>
    intro line h
    simp [takeLineFrom, lineAndRest, joinRest, Except.map, Nat.not_lt.2 h]
  | cons chunk chunks ih =>
    intro line h
    rw [List.flatten_cons]
    by_cases hc : lineFeed ∈ chunk
    · -- the line ends in this chunk, and what follows it is left over
      obtain ⟨front, after, rfl, hfront⟩ := List.eq_append_cons_of_mem hc
      rw [List.append_assoc, List.cons_append, takeLineFrom_end hfront, takeLineFrom_end hfront]
      split <;> simp [lineAndRest, joinRest, Except.map]
    · have hone : takeLineFrom line [chunk ++ chunks.flatten] = takeLineFrom (line ++ chunk) [chunks.flatten] := by
        by_cases hb : lineFeed ∈ chunks.flatten
        · obtain ⟨front, after, hsplit, hfront⟩ := List.eq_append_cons_of_mem hb
          have hboth : lineFeed ∉ chunk ++ front := by simp [hc, hfront]
          rw [hsplit, ← List.append_assoc, takeLineFrom_end hboth, takeLineFrom_end hfront]
          simp only [List.append_assoc]
        · have hboth : lineFeed ∉ chunk ++ chunks.flatten := fun h => (List.mem_append.1 h).elim hc hb
          rw [takeLineFrom_open hboth, takeLineFrom_open hb, List.append_assoc line]
      rw [hone, takeLineFrom_open hc]
      split
      · rename_i hlong
        rw [takeLineFrom_tooLong hlong]
      · rename_i hshort
        exact ih (Nat.not_lt.1 hshort)

/-- The first line of the bytes: up to the first line feed, which belongs to it, or all of them. -/
def firstLine (bytes : Bytes) : Bytes :=
  bytes.takeWhile (· ≠ lineFeed) ++ (bytes.dropWhile (· ≠ lineFeed)).take 1

theorem firstLine_end (h : lineFeed ∉ front) (after : Bytes) :
    firstLine (front ++ lineFeed :: after) = front ++ [lineFeed] := by
  simp only [firstLine, (span_at h after).1, (span_at h after).2, List.take_succ_cons, List.take_zero]

theorem firstLine_open (h : lineFeed ∉ chunk) : firstLine chunk = chunk := by
  have htake := List.takeWhile_eq_self_iff.2 (ne_of_notMem h)
  have hdrop := List.dropWhile_eq_nil_iff.2 (ne_of_notMem h)
  simp only [firstLine, htake, hdrop, List.take_nil, List.append_nil]

/-- What is read as a line: the first line of the bytes, if it is not too long. -/
theorem takeLine_eq (input : Input) : lineAndRest (takeLine input) =
    if maxHeaderLineBytes < (firstLine input.flatten).length then .error .headerTooLong
    else .ok (if input.flatten = [] then none else some (firstLine input.flatten),
      input.flatten.drop (firstLine input.flatten).length) := by
  rw [takeLine, takeLineFrom_flatten input (Nat.zero_le _)]
  generalize input.flatten = bytes
  by_cases hb : lineFeed ∈ bytes
  · obtain ⟨front, after, rfl, hfront⟩ := List.eq_append_cons_of_mem hb
    rw [takeLineFrom_end hfront, firstLine_end hfront]
    simp only [List.nil_append, List.length_append, List.length_singleton]
    split <;> simp [lineAndRest, joinRest, Except.map]
  · rw [takeLineFrom_open hb, firstLine_open hb, List.nil_append]
    split
    · rfl
    · simp [takeLineFrom, lineAndRest, joinRest, Except.map]

theorem takeLine_congr (h : a.flatten = b.flatten) : lineAndRest (takeLine a) = lineAndRest (takeLine b) := by
  rw [takeLine_eq, takeLine_eq, h]

theorem takeLine_eq_tooLong_iff (input : Input) :
    takeLine input = .error .headerTooLong ↔ maxHeaderLineBytes < (firstLine input.flatten).length := by
  have hline := takeLine_eq input
  constructor
  · intro h
    by_contra hshort
    rw [h, if_neg hshort] at hline
    cases hline
  · intro hlong
    rw [if_pos hlong] at hline
    exact eq_error_of_map hline

/-! ## Bodies -/

/-- The bytes of a body are the first of the stream, if there are so many. -/
theorem takeBytes_eq (input : Input) : ∀ n, (takeBytes n input).map joinRest =
    if n ≤ input.flatten.length then some (input.flatten.take n, input.flatten.drop n) else none := by
  induction input with
  | nil =>
    intro n
    cases n <;> simp [takeBytes, joinRest]
  | cons chunk chunks ih =>
    intro n
    simp only [takeBytes, List.splitAt_eq, List.length_take, List.flatten_cons, List.length_append]
    by_cases hn : n ≤ chunk.length
    · simp [joinRest, hn, Nat.le_add_right_of_le hn, List.take_append_of_le_length hn,
        List.drop_append_of_le_length hn]
    · -- the chunk is taken whole, and the others give what is missing
      have hle : chunk.length ≤ n := Nat.le_of_not_le hn
      have hwhole : min n chunk.length = chunk.length := by omega
      rw [if_neg (by omega), hwhole, Option.map_map]
      have hmap : joinRest ∘ (fun r : Bytes × Input => (chunk.take n ++ r.1, r.2)) =
          (fun r : Bytes × Bytes => (chunk ++ r.1, r.2)) ∘ joinRest := by
        funext r
        simp [joinRest, List.take_of_length_le hle]
      rw [hmap, ← Option.map_map, ih]
      by_cases hall : n - chunk.length ≤ chunks.flatten.length
      · rw [if_pos hall, if_pos (by omega), List.take_append, List.drop_append, List.take_of_length_le hle,
          List.drop_of_length_le hle]
        rfl
      · rw [if_neg hall, if_neg (by omega)]
        rfl

theorem takeBytes_congr (h : a.flatten = b.flatten) (n : Nat) :
    (takeBytes n a).map joinRest = (takeBytes n b).map joinRest := by
  rw [takeBytes_eq, takeBytes_eq, h]

/-! ## Headers and messages -/

/-- What is read, if anything, with the bytes that are left put together. -/
def readAndRest (r : Except FrameError (Option (α × Input))) : Except FrameError (Option (α × Bytes)) :=
  r.map (Option.map joinRest)

/-- The headers begin with a line. -/
theorem readHeaders_eq (started : Bool) (length : Option Nat) (input : Input) :
    readHeaders started length input =
      match takeLine input with
      | .error e => .error e
      | .ok (none, _) => if started then .error .headersCutOff else .ok none
      | .ok (some line, rest) => match readHeaderLine line with
        | .error e => .error e
        | .ok .blank => .ok (some (length, rest))
        | .ok (.length n) => readHeaders true (some n) rest
        | .ok .other => readHeaders true length rest := by
  fun_cases readHeaders started length input <;> simp_all

theorem readHeaders_congr (h : a.flatten = b.flatten) (started : Bool) (length : Option Nat) :
    readAndRest (readHeaders started length a) = readAndRest (readHeaders started length b) := by
  -- induction on what is left to read; every line takes some of it
  induction hsize : a.size using Nat.strongRecOn generalizing started length a b with
  | ind size ih =>
    have hline := takeLine_congr h
    rw [readHeaders_eq, readHeaders_eq started length b]
    cases ha : takeLine a with
    | error e =>
      rw [ha] at hline
      rw [eq_error_of_map hline.symm]
    | ok x =>
      obtain ⟨line, rest⟩ := x
      rw [ha] at hline
      obtain ⟨⟨line', rest'⟩, hb, hjoin⟩ := eq_ok_of_map hline.symm
      obtain ⟨hsame, hrest⟩ := Prod.mk.inj hjoin
      obtain rfl : line = line' := hsame.symm
      rw [hb]
      cases line with
      | none => cases started <;> rfl
      | some line =>
        have hlt : rest.size < size := hsize ▸ size_takeLine_lt ha
        dsimp only
        cases readHeaderLine line with
        | error e => rfl
        | ok header =>
          cases header with
          | blank => simp [readAndRest, joinRest, Except.map, hrest]
          | length n => exact ih _ hlt hrest.symm true (some n) rfl
          | other => exact ih _ hlt hrest.symm true length rfl

theorem readBody_congr (h : a.flatten = b.flatten) (n : Nat) :
    readAndRest ((readBody n a).map some) = readAndRest ((readBody n b).map some) := by
  have hbytes := takeBytes_congr h n
  unfold readBody
  split
  · rfl
  · cases ha : takeBytes n a with
    | none =>
      rw [ha, Option.map_none, eq_comm, Option.map_eq_none_iff] at hbytes
      rw [hbytes]
    | some x =>
      rw [ha, Option.map_some, eq_comm, Option.map_eq_some_iff] at hbytes
      obtain ⟨y, hb, hxy⟩ := hbytes
      obtain ⟨hbody, hrest⟩ := Prod.mk.inj hxy
      rw [hb]
      dsimp only
      rw [hbody]
      cases Json.parseBytes? x.1 with
      | none => rfl
      | some message => simp [readAndRest, joinRest, Except.map, hrest]

theorem readMessage_congr (h : a.flatten = b.flatten) : readAndRest (readMessage a) = readAndRest (readMessage b) := by
  have hheaders := readHeaders_congr h false none
  unfold readMessage
  cases ha : readHeaders false none a with
  | error e =>
    rw [ha] at hheaders
    rw [eq_error_of_map hheaders.symm]
  | ok x =>
    rw [ha] at hheaders
    obtain ⟨y, hb, hxy⟩ := eq_ok_of_map hheaders.symm
    rw [hb]
    cases x with
    | none =>
      rw [Option.map_none, Option.map_eq_none_iff] at hxy
      rw [hxy]
    | some x =>
      rw [Option.map_some, Option.map_eq_some_iff] at hxy
      obtain ⟨⟨n, rest'⟩, rfl, hrest⟩ := hxy
      obtain ⟨m, rest⟩ := x
      obtain ⟨rfl, hrest⟩ := Prod.mk.inj hrest
      cases n with
      | none => rfl
      | some n => exact readBody_congr hrest.symm n

/-! ## Lines that are too long -/

theorem readHeaderLine_ne_tooLong (line : Bytes) : readHeaderLine line ≠ .error .headerTooLong := by
  unfold readHeaderLine readHeaderText
  split
  · dsimp only
    split
    · exact fun h => by cases h
    · split
      · exact fun h => by cases h
      · split
        · split <;> exact fun h => by cases h
        · exact fun h => by cases h
  · exact fun h => by cases h

/-- The headers at the front of the bytes come to a line that is too long. -/
inductive HasLongLine : Bytes → Prop where
  | here {bytes : Bytes} (long : maxHeaderLineBytes < (firstLine bytes).length) : HasLongLine bytes
  | later {bytes : Bytes} {header : HeaderLine} (read : readHeaderLine (firstLine bytes) = .ok header)
      (more : header ≠ .blank) (rest : HasLongLine (bytes.drop (firstLine bytes).length)) : HasLongLine bytes

/-- A first line that is not too long leaves it to the lines after it. -/
theorem hasLongLine_iff {bytes : Bytes} (h : ¬ maxHeaderLineBytes < (firstLine bytes).length) :
    HasLongLine bytes ↔ ∃ header, readHeaderLine (firstLine bytes) = .ok header ∧ header ≠ .blank ∧
      HasLongLine (bytes.drop (firstLine bytes).length) := by
  constructor
  · rintro (long | ⟨read, more, rest⟩)
    · exact absurd long h
    · exact ⟨_, read, more, rest⟩
  · rintro ⟨header, read, more, rest⟩
    exact .later read more rest

theorem not_hasLongLine_nil : ¬ HasLongLine [] := by
  rw [hasLongLine_iff (Nat.not_lt_zero _)]
  rintro ⟨header, read, more, -⟩
  have hblank : readHeaderLine (firstLine []) = .ok .blank := by decide +kernel
  exact more (Except.ok.inj (read.symm.trans hblank))

/-- Headers are refused for the length of a line just when they come to one that is too long. -/
theorem readHeaders_eq_tooLong_iff (started : Bool) (length : Option Nat) (input : Input) :
    readHeaders started length input = .error .headerTooLong ↔ HasLongLine input.flatten := by
  induction hsize : input.size using Nat.strongRecOn generalizing started length input with
  | ind size ih =>
    have hline := takeLine_eq input
    rw [readHeaders_eq]
    cases htake : takeLine input with
    | error e =>
      rw [htake] at hline
      split at hline
      · rename_i hlong
        cases hline
        exact iff_of_true rfl (.here hlong)
      · cases hline
    | ok x =>
      obtain ⟨line, rest⟩ := x
      rw [htake] at hline
      split at hline
      · cases hline
      · rename_i hshort
        obtain ⟨hfirst, hrest⟩ := Prod.mk.inj (Except.ok.inj hline)
        split at hfirst
        · -- at the end of the stream
          rename_i hempty
          obtain rfl : line = none := hfirst
          rw [hempty]
          refine iff_of_false ?_ not_hasLongLine_nil
          cases started <;> exact fun h => by cases h
        · obtain rfl : line = some _ := hfirst
          rw [hasLongLine_iff hshort, ← hrest]
          have hlt : rest.size < size := hsize ▸ size_takeLine_lt htake
          dsimp only
          cases hread : readHeaderLine (firstLine input.flatten) with
          | error e =>
            refine iff_of_false ?_ (by simp)
            rintro ⟨⟩
            exact readHeaderLine_ne_tooLong _ hread
          | ok header =>
            cases header with
            | blank => simp
            | length n => simpa using ih _ hlt true (some n) rest rfl
            | other => simpa using ih _ hlt true length rest rfl

theorem readMessage_eq_tooLong_iff (input : Input) :
    readMessage input = .error .headerTooLong ↔ HasLongLine input.flatten := by
  rw [← readHeaders_eq_tooLong_iff false none, readMessage]
  cases hheaders : readHeaders false none input with
  | error e => simp
  | ok x =>
    refine iff_of_false ?_ (fun h => by cases h)
    rcases x with _ | ⟨_ | n, rest⟩
    · exact fun h => by cases h
    · exact fun h => by cases h
    · dsimp only [readBody]
      intro h
      have hbody := eq_error_of_map h
      split at hbody
      · cases hbody
      · split at hbody
        · cases hbody
        · split at hbody <;> cases hbody

/-! ## Streams -/

/-- A stream begins with a message, ends, or is at fault. -/
theorem readAll_eq (input : Input) :
    readAll input =
      match readMessage input with
      | .error e => ([], some e)
      | .ok none => ([], none)
      | .ok (some (message, rest)) => (message :: (readAll rest).1, (readAll rest).2) := by
  rw [readAll]
  split <;> rename_i h <;> simp only [h]

/-- The messages of a stream, and how it ends, do not depend on its chunks. -/
theorem readAll_congr (h : a.flatten = b.flatten) : readAll a = readAll b := by
  induction hsize : a.size using Nat.strongRecOn generalizing a b with
  | ind size ih =>
    have hmessage := readMessage_congr h
    rw [readAll_eq, readAll_eq b]
    cases ha : readMessage a with
    | error e =>
      rw [ha] at hmessage
      rw [eq_error_of_map hmessage.symm]
    | ok x =>
      rw [ha] at hmessage
      obtain ⟨y, hb, hxy⟩ := eq_ok_of_map hmessage.symm
      rw [hb]
      cases x with
      | none =>
        rw [Option.map_none, Option.map_eq_none_iff] at hxy
        rw [hxy]
      | some x =>
        rw [Option.map_some, Option.map_eq_some_iff] at hxy
        obtain ⟨⟨message, rest'⟩, rfl, hrest⟩ := hxy
        obtain ⟨message', rest⟩ := x
        obtain ⟨rfl, hrest⟩ := Prod.mk.inj hrest
        have hlt : rest.size < size := hsize ▸ size_readMessage_lt ha
        dsimp only
        rw [ih _ hlt hrest.symm rfl]

/-- However a stream is cut into chunks, the messages are the same, and so is the way it ends. A header line is refused
for its length just when it is longer than the limit, with its line feed or up to the end of the stream; and a message
is refused for it just when its headers come to such a line. -/
theorem readAll_of_same_bytes (h : a.flatten = b.flatten) :
    readAll a = readAll b ∧
      (takeLine a = .error .headerTooLong ↔ maxHeaderLineBytes < (firstLine b.flatten).length) ∧
      (readMessage a = .error .headerTooLong ↔ HasLongLine b.flatten) := by
  refine ⟨readAll_congr h, ?_, ?_⟩
  · rw [takeLine_eq_tooLong_iff, h]
  · rw [readMessage_eq_tooLong_iff, h]

/-- A header line that is one byte too long, in two chunks. -/
def Sample.longLine : Input := [List.replicate 8000 65, List.replicate 192 65 ++ [lineFeed]]

theorem readAll_longLine :
    readAll Sample.longLine = readAll [Sample.longLine.flatten] ∧
      takeLine Sample.longLine = .error .headerTooLong ∧ readMessage Sample.longLine = .error .headerTooLong := by
  have hbytes : Sample.longLine.flatten = [Sample.longLine.flatten].flatten := by simp
  obtain ⟨hall, hline, hmessage⟩ := readAll_of_same_bytes hbytes
  have hlong : maxHeaderLineBytes < (firstLine [Sample.longLine.flatten].flatten).length := by decide +kernel
  exact ⟨hall, hline.2 hlong, hmessage.2 (.here hlong)⟩

end TemplateDebug.Dap
