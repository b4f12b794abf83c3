import TemplateDebug.Text.Split
/-!
# Paths

A path keeps its spelling and is compared by its components: repeated and final slashes vanish, and so do dots, except
for a dot that begins a relative path. A double dot is a component like any other. A backslash is an ordinary
character.

A path is a text, so a file whose name is not UTF-8 has no path. Such a file is never a compiled source, yet a walk that
meets it counts it among the files visited: that is not represented here.
-/

namespace TemplateDebug

structure Path where
  text : String
  deriving DecidableEq, Repr

namespace Path

inductive Component where
  | root
  | here
  | parent
  | normal (name : String)
  deriving DecidableEq, Repr

/-- The names of a path: its parts between slashes, the empty ones left out. -/
def names (s : List Char) : List String :=
  ((Text.splitParts (· = '/') s).filter (!·.isEmpty)).map String.ofList

def isAbsolute (p : Path) : Bool := p.text.toList.head? = some '/'

def componentOf (name : String) : Component := if name = ".." then .parent else .normal name

def components (p : Path) : List Component :=
  let parts := names p.text.toList
  let rest := (parts.filter (· ≠ ".")).map componentOf
  if p.isAbsolute then .root :: rest
  else if parts.head? = some "." then .here :: rest
  else rest

/-- The paths have the same components. -/
def same (p q : Path) : Bool := p.components == q.components

/-- The path after the components of `base`, when it starts with them. -/
def stripPrefix? : List Component → List Component → Option (List Component)
  | [], rest => some rest
  | _ :: _, [] => none
  | b :: base, c :: rest => if b = c then stripPrefix? base rest else none

def startsWith (p base : Path) : Bool := (stripPrefix? base.components p.components).isSome

/-- The name of the last component, if that is a normal one. -/
def fileName? (p : Path) : Option String :=
  match p.components.getLast? with
  | some (.normal name) => some name
  | _ => none

/-- `rel` as seen from `base`; an absolute `rel` stands alone. -/
def join (base : Path) (rel : String) : Path :=
  if rel.toList.head? = some '/' then ⟨rel⟩
  else if base.text.isEmpty ∨ base.text.toList.getLast? = some '/' then ⟨base.text ++ rel⟩
  else ⟨base.text ++ "/" ++ rel⟩

/-- The names of a path of normal components only, joined by slashes; none if there are none. -/
def slashed? (components : List Component) : Option String :=
  let name? : Component → Option String
    | .normal name => some name
    | _ => none
  match components.mapM name? with
  | none | some [] => none
  | some names => some (String.intercalate "/" names)

/-- Keeps the first of several equal paths. -/
def pushNew (paths : List Path) (p : Path) : List Path :=
  if paths.any (·.same p) then paths else paths ++ [p]

/-- Adds paths in turn, each of them unless an equal one is there. -/
def pushAllNew (found paths : List Path) : List Path := paths.foldl pushNew found

/-- The path made absolute from `base`: its own components appended to `base`, with a final slash kept. Exactly two
leading slashes stay two. -/
def absoluteFrom (base p : Path) : Path :=
  let cs := p.components.filterMap fun
    | .normal name => some name
    | .parent => some ".."
    | _ => none
  let start : Path :=
    if p.isAbsolute then
      if p.text.toList.take 2 = ['/', '/'] ∧ p.text.toList.take 3 ≠ ['/', '/', '/'] then ⟨"//"⟩ else ⟨"/"⟩
    else base
  let joined := cs.foldl join start
  if p.text.toList.getLast? = some '/' then joined.join "" else joined

end Path

end TemplateDebug
