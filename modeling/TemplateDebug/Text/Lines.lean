/-!
# Lines

A line ends at a line feed or at the end of the text; one carriage return before that line feed belongs to the line's
end. A text that ends in a line feed has no further, empty line.
-/

namespace TemplateDebug.Text

/-- A line as cut from the text: the characters before its line feed, and whether it has one. -/
structure RawLine where
  chars : List Char
  ended : Bool
  deriving DecidableEq, Repr

/-- The line with `c` put in front of the first of `ls`. -/
def RawLine.consFirst (c : Char) : List RawLine → List RawLine
  | [] => [⟨[c], false⟩]
  | l :: ls => ⟨c :: l.chars, l.ended⟩ :: ls

/-- The text cut at its line feeds. -/
def rawLines (s : List Char) : List RawLine :=
  s.foldr (fun c ls => if c = '\n' then ⟨[], true⟩ :: ls else RawLine.consFirst c ls) []

/-- The text without a carriage return at its end. -/
def dropFinalReturn (s : List Char) : List Char :=
  if s.getLast? = some '\r' then s.dropLast else s

def RawLine.content (l : RawLine) : List Char := if l.ended then dropFinalReturn l.chars else l.chars

/-- The lines of a text. -/
def lines (s : List Char) : List (List Char) := (rawLines s).map RawLine.content

end TemplateDebug.Text
