import TemplateDebug.Path.Basic
/-!
# Template references

A marker names its template by a reference: usually the path below a web root, sometimes with backslashes. The
plausible references of a template are the spellings under which a marker may name it.
-/

namespace TemplateDebug.Template

/-- The text with its backslashes turned into slashes. -/
def slashed (s : String) : String := s.map fun c => if c = '\\' then '/' else c

/-- A marker's reference is the candidate itself, or becomes it when its backslashes turn into slashes. -/
def refMatches (candidate markerRef : String) : Bool :=
  candidate == markerRef || (markerRef.toList.contains '\\' && slashed markerRef == candidate)

/-- One of the candidates matches a marker's reference; a marker without one matches none. -/
def anyMatches (candidates : List String) (markerRef : Option String) : Bool :=
  markerRef.any fun r => candidates.any (refMatches · r)

/-- Keeps the first of several equal texts. -/
def pushNew (refs : List String) (r : String) : List String := if refs.contains r then refs else refs ++ [r]

/-- The path of a template below a web root that contains it, in normal components only. -/
def below? (template root : Path) : Option String :=
  (Path.stripPrefix? root.components template.components).bind Path.slashed?

/-- Every spelling of a template: below each web root that contains it, without and with a leading slash, and last its
file name alone. -/
def plausibleRefs (template : Path) (webRoots : List Path) : List String :=
  let spelled := webRoots.filterMap (below? template)
  let refs := spelled.foldl (fun refs r => pushNew (pushNew refs r) ("/" ++ r)) []
  match template.fileName? with
  | some name => pushNew refs name
  | none => refs

end TemplateDebug.Template
