import TemplateDebug.Marker.Basic
import TemplateDebug.Marker.Dialect
import TemplateDebug.Text.Lines
/-!
# The markers of a source text

A line holds at most one marker. The first dialect that reads the line decides: when the line number it reads cannot
be used, the line holds no marker.
-/

namespace TemplateDebug.Marker

/-- The line number that digits spell: of ASCII digits only, and from one to the greatest line number. -/
def lineNumber? (digits : List Char) : Option Nat :=
  if digits.all Char.isDigit then
    let n := digits.foldl (fun n c => n * 10 + (c.toNat - '0'.toNat)) 0
    if 0 < n ∧ n ≤ lastLine then some n else none
  else none

/-- Every dialect is a comment; most lines hold none and need no further look. -/
def mayHoldMarker : List Char → Bool
  | '/' :: '/' :: _ => true
  | '/' :: '*' :: _ => true
  | _ :: s => mayHoldMarker s
  | [] => false

/-- What the first dialect that reads the line says. -/
def reading? (line : List Char) : Option Dialect.Reading := Dialect.all.findSome? (·.read? line)

/-- The marker that a line holds, if the line has this number. -/
def ofLine? (line : List Char) (number : Nat) : Option Marker :=
  if mayHoldMarker line then
    (reading? line).bind fun r => (lineNumber? r.digits).map fun n =>
      { compiledLine := number, templateLine := n, templateRef := r.templateRef.map String.ofList }
  else none

/-- The markers of a source text, in the order of their lines. -/
def parseList (text : String) : List Marker :=
  (((Text.lines text.toList).take lastLine).zipIdx 1).filterMap fun l => ofLine? l.1 l.2

def parse (text : String) : Array Marker := (parseList text).toArray

end TemplateDebug.Marker
