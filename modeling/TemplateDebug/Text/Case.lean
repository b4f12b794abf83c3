/-!
# Letter case

Two ways to read text regardless of case: the ASCII letters alone, or simple case folding, under which two characters
outside ASCII also fold to ASCII letters. Only letters of ASCII are ever looked for, so no other folding matters.
-/

namespace TemplateDebug.Text

/-- The texts agree up to the case of ASCII letters. -/
def sameIgnoringAsciiCase (a b : String) : Bool := a.toList.map Char.toLower == b.toList.map Char.toLower

/-- Simple case folding as far as it reaches ASCII: the long s folds to `s`, the Kelvin sign to `k`. -/
def fold (c : Char) : Char :=
  if c = '\u017f' then 's' else if c = '\u212a' then 'k' else c.toLower

/-- The text after `word`, which is written in folded letters and matched regardless of case. -/
def dropWord? : List Char → List Char → Option (List Char)
  | [], s => some s
  | _ :: _, [] => none
  | w :: word, c :: s => if fold c = w then dropWord? word s else none

end TemplateDebug.Text
