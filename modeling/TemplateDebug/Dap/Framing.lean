import TemplateDebug.Json.Printer
import TemplateDebug.Json.Reader
import TemplateDebug.Text.Case
import TemplateDebug.Text.CharClass
import TemplateDebug.Text.Quoted
import TemplateDebug.Text.Word
/-!
# Frames

A message travels as a frame: header lines, a blank line, and as many bytes of JSON as the header line
`Content-Length` says. Bytes arrive in chunks, and how a stream is cut into chunks does not matter to what is read. A
stream ends well only between frames.
-/

namespace TemplateDebug.Dap

/-- The greatest length of a message in bytes. -/
def maxMessageBytes : Nat := 16 * 1024 * 1024

/-- The greatest length of a header line in bytes, its line feed included. -/
def maxHeaderLineBytes : Nat := 8 * 1024

/-- Why no message can be read. -/
inductive FrameError where
  | headerTooLong
  | headerNotUtf8
  | headersCutOff
  | lengthMissing
  | lengthInvalid (text : String) (reason : Text.WordError)
  | lengthTooLarge (length : Nat)
  | bodyCutOff
  | bodyNotJson
  deriving DecidableEq, Repr

namespace FrameError

/-- The error that lies behind this one, if it is not the protocol's own. -/
def cause? : FrameError → Option String
  | bodyCutOff => some "early eof"
  | bodyNotJson => some "invalid JSON text"
  | _ => none

def message : FrameError → String
  | headerTooLong => "dap protocol error: header line exceeds maximum size (" ++ toString maxHeaderLineBytes ++ " bytes)"
  | headerNotUtf8 => "dap protocol error: header line is not UTF-8"
  | headersCutOff => "dap protocol error: EOF while reading headers"
  | lengthMissing => "dap protocol error: missing Content-Length header"
  | lengthInvalid text reason =>
    "dap protocol error: invalid Content-Length " ++ Text.quote text ++ ": " ++ reason.message
  | lengthTooLarge n =>
    "dap protocol error: Content-Length " ++ toString n ++ " exceeds maximum message size (" ++
      toString maxMessageBytes ++ " bytes)"
  | bodyCutOff => "io error: early eof"
  | bodyNotJson => "json error: invalid JSON text"

end FrameError

/-! ## Input in chunks -/

/-- What is left of a stream, as the chunks it arrives in. -/
abbrev Input := List Bytes

/-- How many bytes are left. -/
def Input.size : Input → Nat
  | [] => 0
  | chunk :: rest => chunk.length + Input.size rest

def lineFeed : UInt8 := 10

/-- The bytes of a line with its line feed, or up to the end of the stream, and what is left; no line at the end of
the stream. `line` holds its bytes from earlier chunks. -/
def takeLineFrom (line : Bytes) : Input → Except FrameError (Option Bytes × Input)
  | [] => .ok (if line.isEmpty then none else some line, [])
  | chunk :: rest =>
    let line := line ++ chunk.takeWhile (· ≠ lineFeed)
    match chunk.dropWhile (· ≠ lineFeed) with
    | [] => if maxHeaderLineBytes < line.length then .error .headerTooLong else takeLineFrom line rest
    | feed :: after =>
      if maxHeaderLineBytes < line.length + 1 then .error .headerTooLong else .ok (some (line ++ [feed]), after :: rest)

def takeLine (input : Input) : Except FrameError (Option Bytes × Input) := takeLineFrom [] input

/-- The next `n` bytes and what is left; none if the stream ends before. -/
def takeBytes (n : Nat) : Input → Option (Bytes × Input)
  | [] => if n = 0 then some ([], []) else none
  | chunk :: rest =>
    let (front, back) := chunk.splitAt n
    if front.length = n then some (front, back :: rest)
    else (takeBytes (n - front.length) rest).map fun r => (front ++ r.1, r.2)

theorem size_takeLineFrom {line : Bytes} {input rest : Input} {taken : Bytes}
    (h : takeLineFrom line input = .ok (some taken, rest)) : rest.size + taken.length = input.size + line.length := by
  induction input generalizing line with
  | nil =>
    simp only [takeLineFrom] at h
    split at h <;> simp_all
  | cons chunk chunks ih =>
    have parts : (chunk.takeWhile (· ≠ lineFeed)).length + (chunk.dropWhile (· ≠ lineFeed)).length = chunk.length := by
      rw [← List.length_append, List.takeWhile_append_dropWhile]
    rw [takeLineFrom] at h
    split at h
    · split at h
      · simp at h
      · rename_i hd _
        have := ih h
        simp only [hd, List.length_nil] at parts
        simp only [Input.size, List.length_append] at this ⊢
        omega
    · split at h
      · simp at h
      · rename_i hd _
        simp only [hd, List.length_cons] at parts
        simp only [Except.ok.injEq, Prod.mk.injEq, Option.some.injEq] at h
        obtain ⟨rfl, rfl⟩ := h
        simp only [Input.size, List.length_append, List.length_cons, List.length_nil]
        omega

theorem takeLineFrom_ne_nil {line : Bytes} {input rest : Input} {taken : Bytes}
    (h : takeLineFrom line input = .ok (some taken, rest)) : taken ≠ [] := by
  induction input generalizing line with
  | nil =>
    simp only [takeLineFrom] at h
    split at h <;> simp_all
  | cons chunk chunks ih =>
    rw [takeLineFrom] at h
    split at h
    · split at h
      · simp at h
      · exact ih h
    · split at h
      · simp at h
      · simp only [Except.ok.injEq, Prod.mk.injEq, Option.some.injEq] at h
        simp [← h.1]

/-- A line takes at least one byte. -/
theorem size_takeLine_lt {input rest : Input} {line : Bytes} (h : takeLine input = .ok (some line, rest)) :
    rest.size < input.size := by
  have size := size_takeLineFrom h
  have := List.length_pos_iff.2 (takeLineFrom_ne_nil h)
  simp only [List.length_nil] at size
  omega

theorem size_takeBytes_le {n : Nat} {input rest : Input} {taken : Bytes}
    (h : takeBytes n input = some (taken, rest)) : rest.size ≤ input.size := by
  induction input generalizing n taken with
  | nil =>
    simp only [takeBytes] at h
    split at h <;> simp_all
  | cons chunk chunks ih =>
    simp only [takeBytes, List.splitAt_eq] at h
    split at h
    · simp only [Option.some.injEq, Prod.mk.injEq] at h
      obtain ⟨-, rfl⟩ := h
      simp only [Input.size, List.length_drop]
      omega
    · obtain ⟨r, hr, he⟩ := Option.map_eq_some_iff.1 h
      simp only [Prod.mk.injEq] at he
      obtain ⟨-, rfl⟩ := he
      have := ih hr
      simp only [Input.size] at this ⊢
      omega

/-! ## Headers -/

def isLineEnd (c : Char) : Bool := c = '\r' || c = '\n'

/-- The text without carriage returns and line feeds at its end. -/
def dropLineEnds (s : List Char) : List Char := (s.reverse.dropWhile isLineEnd).reverse

def lengthHeader : String := "Content-Length"

/-- What a header line says. -/
inductive HeaderLine where
  | blank
  | length (n : Nat)
  | other
  deriving DecidableEq, Repr

/-- The name before the first colon and the value after it, if there is a colon. -/
def splitHeader? (s : List Char) : Option (List Char × List Char) :=
  match s.dropWhile (· ≠ ':') with
  | _ :: value => some (s.takeWhile (· ≠ ':'), value)
  | [] => none

def readHeaderText (line : List Char) : Except FrameError HeaderLine :=
  let line := dropLineEnds line
  if line.isEmpty then .ok .blank
  else match splitHeader? line with
    | none => .ok .other
    | some (name, value) =>
      if Text.sameIgnoringAsciiCase (String.ofList name) lengthHeader then
        let value := Text.trim value
        match Text.word value with
        | .ok n => .ok (.length n)
        | .error reason => .error (.lengthInvalid (String.ofList value) reason)
      else .ok .other

def readHeaderLine (line : Bytes) : Except FrameError HeaderLine :=
  match Utf8.decode? line with
  | some text => readHeaderText text.toList
  | none => .error .headerNotUtf8

/-- The headers of the next frame: the last length they give, if any, and what is left; none at the end of the
stream. `started` tells that a header line has been read, and `length` what those so far give. -/
def readHeaders (started : Bool) (length : Option Nat) (input : Input) :
    Except FrameError (Option (Option Nat × Input)) :=
  match h : takeLine input with
  | .error e => .error e
  | .ok (none, _) => if started then .error .headersCutOff else .ok none
  | .ok (some line, rest) =>
    have : rest.size < input.size := size_takeLine_lt h
    match readHeaderLine line with
    | .error e => .error e
    | .ok .blank => .ok (some (length, rest))
    | .ok (.length n) => readHeaders true (some n) rest
    | .ok .other => readHeaders true length rest
termination_by input.size

/-! ## Messages -/

/-- The message of `n` bytes at the front, and what is left. -/
def readBody (n : Nat) (input : Input) : Except FrameError (Json × Input) :=
  if maxMessageBytes < n then .error (.lengthTooLarge n)
  else match takeBytes n input with
    | none => .error .bodyCutOff
    | some (body, rest) => match Json.parseBytes? body with
      | some message => .ok (message, rest)
      | none => .error .bodyNotJson

/-- The next message and what is left; none at the end of the stream. -/
def readMessage (input : Input) : Except FrameError (Option (Json × Input)) :=
  match readHeaders false none input with
  | .error e => .error e
  | .ok none => .ok none
  | .ok (some (none, _)) => .error .lengthMissing
  | .ok (some (some n, rest)) => (readBody n rest).map some

theorem size_readHeaders_lt {started : Bool} {length n : Option Nat} {input rest : Input}
    (h : readHeaders started length input = .ok (some (n, rest))) : rest.size < input.size := by
  fun_induction readHeaders started length input with
  | case1 | case2 | case3 | case4 => simp_all
  | case5 _ _ _ _ _ _ lt =>
    simp only [Except.ok.injEq, Option.some.injEq, Prod.mk.injEq] at h
    exact h.2 ▸ lt
  | case6 _ _ _ _ _ _ lt _ _ ih | case7 _ _ _ _ _ _ lt _ ih => exact Nat.lt_trans (ih h) lt

theorem size_readMessage_lt {input rest : Input} {message : Json}
    (h : readMessage input = .ok (some (message, rest))) : rest.size < input.size := by
  unfold readMessage at h
  split at h <;> try simp at h
  rename_i n left hh
  have lt := size_readHeaders_lt hh
  unfold readBody at h
  split at h
  · simp [Except.map] at h
  · split at h
    · simp [Except.map] at h
    · rename_i body left' hb
      have le := size_takeBytes_le hb
      split at h
      · simp only [Except.map, Except.ok.injEq, Option.some.injEq, Prod.mk.injEq] at h
        obtain ⟨-, rfl⟩ := h
        omega
      · simp [Except.map] at h

/-- The messages of a stream, and the error that ends it, if it does not end well. -/
def readAll (input : Input) : List Json × Option FrameError :=
  match h : readMessage input with
  | .error e => ([], some e)
  | .ok none => ([], none)
  | .ok (some (message, rest)) =>
    have : rest.size < input.size := size_readMessage_lt h
    let (messages, fault) := readAll rest
    (message :: messages, fault)
termination_by input.size

/-- The frame of a message. -/
def frame (message : Json) : Bytes :=
  let body := Utf8.encode message.render
  Utf8.encode (lengthHeader ++ ": " ++ toString body.length ++ "\r\n\r\n") ++ body

/-- The frames of messages, one after the other. -/
def frames (messages : List Json) : Bytes := messages.flatMap frame

end TemplateDebug.Dap
