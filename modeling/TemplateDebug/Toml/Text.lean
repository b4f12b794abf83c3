import TemplateDebug.Toml.Basic
/-!
# Strings in TOML

Basic strings know escapes, literal strings do not; both exist on one line and on several. A line end in a string of
several lines reads as a line feed. Control characters are refused, tabs apart.
-/

namespace TemplateDebug.Toml

def isBlank (c : Char) : Bool := c = ' ' || c = '\t'

/-- A character that may stand in a comment. -/
def isPrintable (c : Char) : Bool := c = '\t' || (0x20 ≤ c.toNat && c.toNat ≠ 0x7F)

/-- The text after a line end at its front. -/
def lineEnd? : List Char → Option (List Char)
  | '\n' :: s => some s
  | '\r' :: '\n' :: s => some s
  | _ => none

def dropBlanks (s : List Char) : List Char := s.dropWhile isBlank

/-! ## Escapes -/

def hexDigit? (c : Char) : Option Nat :=
  if c.isDigit then some (c.toNat - '0'.toNat)
  else if 'a' ≤ c ∧ c ≤ 'f' then some (c.toNat - 'a'.toNat + 10)
  else if 'A' ≤ c ∧ c ≤ 'F' then some (c.toNat - 'A'.toNat + 10)
  else none

/-- The character whose code point the first `n` characters give, which are hexadecimal digits. -/
def codePoint? (n : Nat) (s : List Char) : Option Char :=
  if (s.take n).length < n then none
  else ((s.take n).foldl (fun v c => v.bind fun v => (hexDigit? c).map fun d => v * 16 + d) (some 0)).bind fun v =>
    if v.isValidChar then some (Char.ofNat v) else none

/-- The character of an escape, after its backslash, and how many characters it takes. -/
def escape? : List Char → Option (Char × Nat)
  | 'b' :: _ => some (Char.ofNat 8, 1)
  | 't' :: _ => some ('\t', 1)
  | 'n' :: _ => some ('\n', 1)
  | 'f' :: _ => some (Char.ofNat 12, 1)
  | 'r' :: _ => some ('\r', 1)
  | '"' :: _ => some ('"', 1)
  | '\\' :: _ => some ('\\', 1)
  | 'u' :: s => (codePoint? 4 s).map (·, 5)
  | 'U' :: s => (codePoint? 8 s).map (·, 9)
  | _ => none

/-! ## One line -/

/-- The characters of a basic string up to its closing quote, and the rest; `done` holds those read, in reverse. -/
def readBasic (done : List Char) : List Char → Option (String × List Char)
  | [] => none
  | '"' :: s => some (String.ofList done.reverse, s)
  | '\\' :: s => match escape? s with
    | some (c, taken) => readBasic (c :: done) (s.drop taken)
    | none => none
  | c :: s => if isPrintable c then readBasic (c :: done) s else none
termination_by s => s.length
decreasing_by all_goals simp only [List.length_cons, List.length_drop]; omega

def readLiteral (s : List Char) : Option (String × List Char) :=
  match s.dropWhile fun c => isPrintable c && c ≠ '\'' with
  | '\'' :: rest => some (String.ofList (s.takeWhile fun c => isPrintable c && c ≠ '\''), rest)
  | _ => none

/-! ## Several lines -/

/-- The end of a string of several lines, after three closing quotes: one or two more quotes belong to the string. -/
def finish (quote : Char) (done : List Char) : List Char → String × List Char
  | a :: b :: s =>
    if a = quote ∧ b = quote then (String.ofList (b :: a :: done).reverse, s)
    else if a = quote then (String.ofList (a :: done).reverse, b :: s)
    else (String.ofList done.reverse, a :: b :: s)
  | [a] => if a = quote then (String.ofList (a :: done).reverse, []) else (String.ofList done.reverse, [a])
  | [] => (String.ofList done.reverse, [])

/-- The characters of a basic string of several lines. A backslash at the end of a line drops all blanks and line ends
up to the next character; `dropping` says that these are being dropped. -/
def readLongBasic (dropping : Bool) (done : List Char) : List Char → Option (String × List Char)
  | [] => none
  | '"' :: '"' :: '"' :: s => some (finish '"' done s)
  | '\n' :: s => readLongBasic dropping (if dropping then done else '\n' :: done) s
  | '\r' :: '\n' :: s => readLongBasic dropping (if dropping then done else '\n' :: done) s
  | '\\' :: s =>
    if (lineEnd? (dropBlanks s)).isSome then readLongBasic true done s
    else match escape? s with
      | some (c, taken) => readLongBasic false (c :: done) (s.drop taken)
      | none => none
  | c :: s =>
    if dropping && isBlank c then readLongBasic true done s
    else if isPrintable c then readLongBasic false (c :: done) s
    else none
termination_by s => s.length
decreasing_by all_goals simp only [List.length_cons, List.length_drop]; omega

def readLongLiteral (done : List Char) : List Char → Option (String × List Char)
  | [] => none
  | '\'' :: '\'' :: '\'' :: s => some (finish '\'' done s)
  | '\n' :: s => readLongLiteral ('\n' :: done) s
  | '\r' :: '\n' :: s => readLongLiteral ('\n' :: done) s
  | c :: s => if isPrintable c then readLongLiteral (c :: done) s else none

/-- The text without a line end at its front. -/
def dropLineEnd (s : List Char) : List Char := (lineEnd? s).getD s

/-- A string of any kind at the front, and the rest. -/
def readString? : List Char → Option (String × List Char)
  | '"' :: '"' :: '"' :: s => readLongBasic false [] (dropLineEnd s)
  | '"' :: s => readBasic [] s
  | '\'' :: '\'' :: '\'' :: s => readLongLiteral [] (dropLineEnd s)
  | '\'' :: s => readLiteral s
  | _ => none

end TemplateDebug.Toml
