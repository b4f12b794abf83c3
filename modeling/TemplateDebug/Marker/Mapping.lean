import TemplateDebug.Marker.Basic
import TemplateDebug.Template.Reference
/-!
# Mapping lines through markers

From the compiled source to the template, a line belongs to the last marker at or before it, found by halving. From
the template to the compiled source, a line belongs to the marker of that template with the greatest template line at
or before it, and a breakpoint goes on the line after that marker.
-/

namespace TemplateDebug.Marker

/-- Halves `size` markers from `base` on, keeping at the front a marker at or before `line` if the first is one. -/
def halve (markers : Array Marker) (line base size : Nat) : Nat :=
  if 1 < size then
    let half := size / 2
    let base := match markers[base + half]? with
      | some m => if m.compiledLine ≤ line then base + half else base
      | none => base
    halve markers line base (size - half)
  else base
termination_by size

/-- How many markers of a sorted list lie at or before `line`. -/
def countUpTo (markers : Array Marker) (line : Nat) : Nat :=
  let base := halve markers line 0 markers.size
  match markers[base]? with
  | some m => if m.compiledLine ≤ line then base + 1 else base
  | none => 0

/-- The template location of a line of the compiled source. -/
def locationOf? (markers : Array Marker) (line : Nat) : Option TemplateLocation :=
  match countUpTo markers line with
  | 0 => none
  | n + 1 => markers[n]?.map fun m => ⟨m.templateLine, m.templateRef⟩

/-- By template line, then by compiled line. -/
def atMost (a b : Marker) : Bool :=
  a.templateLine < b.templateLine || (a.templateLine == b.templateLine && a.compiledLine ≤ b.compiledLine)

/-- The later of two markers, the second of equal ones. -/
def later (a b : Marker) : Marker := if atMost a b then b else a

/-- The marker that a breakpoint on a template line belongs to. -/
def chosen? (markers : Array Marker) (refs : List String) (line : Nat) : Option Marker :=
  (markers.toList.filter fun m => m.templateLine ≤ line && Template.anyMatches refs m.templateRef).foldl
    (fun best m => some (match best with | some b => later b m | none => m)) none

/-- The compiled line of a breakpoint on a template line; there is no line after the last. -/
def breakpointLine? (markers : Array Marker) (refs : List String) (line : Nat) : Option Nat :=
  (chosen? markers refs line).bind fun m => if m.compiledLine < lastLine then some (m.compiledLine + 1) else none

end TemplateDebug.Marker
