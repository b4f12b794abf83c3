import TemplateDebug.Text.Case
/-!
# Kinds of source files

A path is told by its text alone. A compiled source is a servlet that a template engine generated: a file named
`*_jsp.java` or `*_jspx.java`, or any `.java` file below a package that engines generate into. A template is a file
with one of the template extensions. Backslashes count as slashes, and letter case never counts.
-/

namespace TemplateDebug.Source

/-- The packages that engines generate into. -/
def generatedPackages : List String := ["org/apache/jsp", "jsp_servlet", "_jsp"]

def templateExtensions : List String := ["jsp", "jspx", "jspf", "tag", "tagx"]

/-- The text with letters folded and backslashes turned into slashes. -/
def folded (path : String) : List Char := path.toList.map fun c => if c = '\\' then '/' else Text.fold c

def endsWith (s : List Char) (ending : String) : Bool := ending.toList.isSuffixOf s

/-- The text after the last slash. -/
def lastSegment (s : List Char) : List Char := (s.reverse.takeWhile (· ≠ '/')).reverse

/-- The text before its last segment. -/
def directory (s : List Char) : List Char := (s.reverse.dropWhile (· ≠ '/')).reverse

/-- A `.java` file with a name, in directories without line feeds in their names. -/
def isJavaFileBelow (s : List Char) : Bool :=
  let name := lastSegment s
  endsWith name ".java" && 5 < name.length && !(directory s).contains '\n'

/-- A generated package starts the text and a `.java` file lies below it. -/
def startsInPackage (s : List Char) : Bool :=
  generatedPackages.any fun package =>
    match Text.dropWord? (package.toList ++ ['/']) s with
    | some rest => isJavaFileBelow rest
    | none => false

/-- Every place where a segment starts: the front of the text, and after each slash. -/
def segmentStarts : List Char → List (List Char)
  | [] => []
  | c :: s => if c = '/' then s :: segmentStarts s else segmentStarts s

def isCompiled (path : String) : Bool :=
  let s := folded path
  endsWith s "_jsp.java" || endsWith s "_jspx.java" || (s :: segmentStarts s).any startsInPackage

/-- The text after the last dot, if there is one. -/
def extension? (name : List Char) : Option (List Char) :=
  if name.contains '.' then some (name.reverse.takeWhile (· ≠ '.')).reverse else none

def isTemplate (path : String) : Bool :=
  let name := (path.toList.reverse.takeWhile fun c => c ≠ '/' && c ≠ '\\').reverse
  match extension? name with
  | some e => templateExtensions.any fun t => Text.sameIgnoringAsciiCase (String.ofList e) t
  | none => false

end TemplateDebug.Source
