import TemplateDebug.Text.Case
import TemplateDebug.Text.CharClass
/-!
# Marker dialects

Engines write markers in four dialects: a line comment or a block comment with a quoted reference, the position of a
tag, and a bare line number. A dialect reads a line from its front and gives the digits of the template line and the
reference, if the dialect has one. Blanks and digits are those of every script, letters match in either case.
-/

namespace TemplateDebug

inductive Dialect where
  | quotedLine
  | quotedBlock
  | tagPosition
  | bare
  deriving DecidableEq, Repr

namespace Dialect

open Text

/-- The digits of the template line, and the reference, as written. -/
structure Reading where
  digits : List Char
  templateRef : Option (List Char)
  deriving DecidableEq, Repr

/-! ## Parts of a marker -/

/-- The text after two slashes and blanks, at the front but for blanks. -/
def lineComment? (s : List Char) : Option (List Char) :=
  match dropBlanks s with
  | '/' :: '/' :: rest => some (dropBlanks rest)
  | _ => none

/-- The text after a slash, one or more stars and blanks, at the front but for blanks. -/
def blockComment? (s : List Char) : Option (List Char) :=
  match dropBlanks s with
  | '/' :: '*' :: rest => some (dropBlanks (rest.dropWhile (· = '*')))
  | _ => none

/-- The text after the end of a block comment, one or more stars and a slash, at the front but for blanks. -/
def blockEnd? (s : List Char) : Option (List Char) :=
  match dropBlanks s with
  | '*' :: rest => match rest.dropWhile (· = '*') with
    | '/' :: rest => some rest
    | _ => none
  | _ => none

/-- The text after one of the characters `marks`, if it starts with one. -/
def dropMark (marks : List Char) : List Char → List Char
  | [] => []
  | c :: s => if marks.contains c then s else c :: s

/-- The digits at the front, of which there is at least one, and the text after them. -/
def digits? (s : List Char) : Option (List Char × List Char) :=
  match s.takeWhile isDigit with
  | [] => none
  | ds => some (ds, s.dropWhile isDigit)

/-- The word `line`, an optional colon or equals sign, and digits, with blanks between; the digits, and the text after
them. -/
def lineNumber? (s : List Char) : Option (List Char × List Char) :=
  (dropWord? "line".toList s).bind fun s => digits? (dropBlanks (dropMark [':', '='] (dropBlanks s)))

/-- Text that is not empty, up to the next `quote`, and what follows that. -/
def upTo? (quote : Char) (s : List Char) : Option (List Char × List Char) :=
  match s.takeWhile (· ≠ quote), s.dropWhile (· ≠ quote) with
  | [], _ => none
  | _, [] => none
  | ref, _ :: rest => some (ref, rest)

/-- A reference between quotes of one kind, at the front but for blanks and one of `,;:`. -/
def quotedRef? (s : List Char) : Option (List Char × List Char) :=
  match dropBlanks (dropMark [',', ';', ':'] (dropBlanks s)) with
  | '"' :: rest => upTo? '"' rest
  | '\'' :: rest => upTo? '\'' rest
  | _ => none

/-! ## Tag positions -/

/-- The extensions of files that a tag position names. -/
def tagExtensions : List String := [".jsp", ".jspx", ".jspf", ".tag", ".tagx"]

/-- The line and column in parentheses at the front; the digits of the line. -/
def position? : List Char → Option (List Char)
  | '(' :: s =>
    match digits? s with
    | some (line, ',' :: s) => match digits? (dropBlanks s) with
      | some (_, ')' :: _) => some line
      | _ => none
    | _ => none
  | _ => none

/-- An extension with a position right after it, at the front: the extension as written, and the digits of the line. -/
def placed? (s : List Char) : Option (List Char × List Char) :=
  tagExtensions.findSome? fun e =>
    (dropWord? e.toList s).bind fun rest => (position? rest).map fun line => (s.take e.length, line)

/-- The shortest stretch before an extension with a position, without blanks and not empty: the reference without its
leading slash, and the digits of the line. -/
def placedAfter? : List Char → Option (List Char × List Char)
  | [] => none
  | c :: s =>
    if isBlank c then none
    else match placed? s with
      | some (e, line) => some (c :: e, line)
      | none => (placedAfter? s).map fun r => (c :: r.1, r.2)

/-! ## Dialects -/

/-- A line number and a quoted reference; what follows them is left for `after` to judge. -/
def readQuoted (after : List Char → Bool) (s : List Char) : Option Reading :=
  match lineNumber? s with
  | none => none
  | some (digits, s) => match quotedRef? s with
    | some (ref, rest) => if after rest then some ⟨digits, some ref⟩ else none
    | none => none

/-- A line number with nothing but blanks after it. -/
def readBareLine (s : List Char) : Option Reading :=
  match lineNumber? s with
  | some (digits, rest) => if (dropBlanks rest).isEmpty then some ⟨digits, none⟩ else none
  | none => none

/-- A line number in a comment that ends, with nothing but blanks after it. -/
def readBareBlock (s : List Char) : Option Reading :=
  match lineNumber? s with
  | some (digits, rest) => match blockEnd? rest with
    | some rest => if (dropBlanks rest).isEmpty then some ⟨digits, none⟩ else none
    | none => none
  | none => none

def readPosition : List Char → Option Reading
  | '/' :: s => (placedAfter? s).map fun r => ⟨r.2, some ('/' :: r.1)⟩
  | _ => none

/-- What a line says in a dialect. -/
def read? (d : Dialect) (line : List Char) : Option Reading :=
  match d with
  | quotedLine => (lineComment? line).bind (readQuoted fun _ => true)
  | quotedBlock => (blockComment? line).bind (readQuoted fun rest => (blockEnd? rest).isSome)
  | tagPosition => (lineComment? line).bind readPosition
  | bare => match lineComment? line with
    | some s => readBareLine s
    | none => (blockComment? line).bind readBareBlock

/-- The dialects, in the order in which a line is tried. -/
def all : List Dialect := [quotedLine, quotedBlock, tagPosition, bare]

end Dialect

end TemplateDebug
