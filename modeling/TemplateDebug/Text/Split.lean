/-!
# Splitting text

A text cut at its separators, which are dropped. There is always one part more than there are separators.
-/

namespace TemplateDebug.Text

/-- The parts of a text between separators; `sep` holds for those. -/
def splitParts (sep : Char → Bool) (s : List Char) : List (List Char) :=
  s.foldr
    (fun c parts => if sep c then [] :: parts else match parts with
      | [] => [[c]]
      | p :: ps => (c :: p) :: ps)
    [[]]

end TemplateDebug.Text
