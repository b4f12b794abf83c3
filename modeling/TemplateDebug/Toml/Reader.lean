import TemplateDebug.Toml.Scalar
import TemplateDebug.Toml.Text
/-!
# Reading TOML text

A document is a list of statements: assignments, headers of tables, and headers of elements of arrays of tables. What
is read is consumed from the front of a list of characters; `fuel` counts the steps and never runs out on a text no
longer than it. Values nest, and keys have parts, up to a limit.
-/

namespace TemplateDebug.Toml

/-- Keys have fewer parts, and values nest less deep. -/
def depthLimit : Nat := 80

/-! ## Keys -/

def isBareKeyChar (c : Char) : Bool := c.isAlphanum || c = '-' || c = '_'

def readKeyPart? : List Char → Option (String × List Char)
  | '"' :: s => readBasic [] s
  | '\'' :: s => readLiteral s
  | s => match s.takeWhile isBareKeyChar with
    | [] => none
    | name => some (String.ofList name, s.dropWhile isBareKeyChar)

/-- The parts of a key, at most `parts` of them, with blanks around each, and the rest. -/
def readKeyParts? (parts : Nat) (s : List Char) : Option (List String × List Char) :=
  match parts with
  | 0 => none
  | parts + 1 => match readKeyPart? (dropBlanks s) with
    | none => none
    | some (name, rest) => match dropBlanks rest with
      | '.' :: rest => (readKeyParts? parts rest).map fun r => (name :: r.1, r.2)
      | rest => some ([name], rest)

def readKey? (s : List Char) : Option (Key × List Char) :=
  (readKeyParts? (depthLimit - 1) s).bind fun r =>
    r.1.getLast?.map fun last => (⟨r.1.dropLast, last⟩, r.2)

/-! ## Blanks, comments and line ends -/

def dropComment : List Char → List Char
  | '#' :: s => s.dropWhile isPrintable
  | s => s

/-- The text after blanks, a comment and a line end, or the end of the text. -/
def endLine? (s : List Char) : Option (List Char) :=
  match dropComment (dropBlanks s) with
  | [] => some []
  | s => lineEnd? s

/-- The text after blanks, line ends and comments; `inComment` says that a comment is being dropped. -/
def dropLayout (inComment : Bool) : List Char → List Char
  | [] => []
  | '\n' :: s => dropLayout false s
  | '\r' :: '\n' :: s => dropLayout false s
  | c :: s =>
    if inComment then (if isPrintable c then dropLayout true s else c :: s)
    else if isBlank c then dropLayout false s
    else if c = '#' then dropLayout true s
    else c :: s

/-! ## Values -/

mutual
/-- The value at the front, in which lists and inline tables nest at most `depth` deep. -/
def readValue (fuel depth : Nat) (s : List Char) : Option (Toml × List Char) :=
  match fuel with
  | 0 => none
  | fuel + 1 => match s with
    | '[' :: s => match depth with
      | 0 => none
      | depth + 1 => readItems fuel depth [] s
    | '\x7b' :: s => match depth with
      | 0 => none
      | depth + 1 => match dropBlanks s with
        | '\x7d' :: rest => some (table .inlined [], rest)
        | s => readInline fuel depth [] s
    | c :: s =>
      if c = '"' ∨ c = '\'' then (readString? (c :: s)).map fun r => (text r.1, r.2) else readBare? (c :: s)
    | [] => none

/-- The items of a list up to its end, with a comma after each but the last; `done` holds those read, in reverse. -/
def readItems (fuel depth : Nat) (done : List Toml) (s : List Char) : Option (Toml × List Char) :=
  match fuel with
  | 0 => none
  | fuel + 1 => match dropLayout false s with
    | ']' :: rest => some (list done.reverse, rest)
    | s => match readValue fuel depth s with
      | none => none
      | some (item, rest) => match dropLayout false rest with
        | ',' :: rest => readItems fuel depth (item :: done) rest
        | ']' :: rest => some (list (item :: done).reverse, rest)
        | _ => none

/-- The assignments of an inline table from the next one on; `done` holds those read, in reverse. -/
def readInline (fuel depth : Nat) (done : List (Key × Toml)) (s : List Char) : Option (Toml × List Char) :=
  match fuel with
  | 0 => none
  | fuel + 1 => match readKey? s with
    | some (key, '=' :: rest) => match readValue fuel depth (dropBlanks rest) with
      | none => none
      | some (value, rest) => match dropBlanks rest with
        | ',' :: rest => readInline fuel depth ((key, value) :: done) rest
        | '\x7d' :: rest =>
          (assignAll? ((key, value) :: done).reverse []).map fun members => (table .inlined members, rest)
        | _ => none
    | _ => none
end

/-! ## Statements -/

inductive Statement where
  | assign (key : Key) (value : Toml)
  | table (key : Key)
  | element (key : Key)
  deriving Repr

/-- The text after a header that ends in `closing`. -/
def endHeader? (closing : List Char) (s : List Char) : Option (List Char) :=
  if closing.isPrefixOf s then endLine? (s.drop closing.length) else none

/-- The statement at the front, and the rest; a line may hold none. -/
def readStatement? (s : List Char) : Option (Option Statement × List Char) :=
  match s with
  | '[' :: '[' :: s => do
    let (key, rest) ← readKey? s
    let rest ← endHeader? [']', ']'] rest
    some (some (.element key), rest)
  | '[' :: s => do
    let (key, rest) ← readKey? s
    let rest ← endHeader? [']'] rest
    some (some (.table key), rest)
  | c :: s =>
    if c = '#' ∨ c = '\n' ∨ c = '\r' then (endLine? (c :: s)).map fun rest => (none, rest)
    else match readKey? (c :: s) with
      | some (key, '=' :: rest) => do
        let rest := dropBlanks rest
        let (value, rest) ← readValue (2 * rest.length + 2) (depthLimit - 1) rest
        let rest ← endLine? rest
        some (some (.assign key value), rest)
      | _ => none
  | [] => none

/-- The statements of a text; `done` holds those read, in reverse. -/
def readStatements (fuel : Nat) (done : List Statement) (s : List Char) : Option (List Statement) :=
  match fuel with
  | 0 => none
  | fuel + 1 => match dropBlanks s with
    | [] => some done.reverse
    | s => match readStatement? s with
      | some (found, rest) => readStatements fuel (found.toList ++ done) rest
      | none => none

/-- The text without a byte order mark. -/
def dropMark : List Char → List Char
  | '\ufeff' :: s => s
  | s => s

def statements? (s : List Char) : Option (List Statement) := readStatements (s.length + 1) [] (dropMark s)

/-! ## Documents -/

/-- The assignments at the front, and the statements from the next header on. -/
def takeAssignments : List Statement → List (Key × Toml) × List Statement
  | .assign key value :: rest =>
    let r := takeAssignments rest
    ((key, value) :: r.1, r.2)
  | rest => ([], rest)

theorem length_takeAssignments_le (l : List Statement) : (takeAssignments l).2.length ≤ l.length := by
  fun_induction takeAssignments l with
  | case1 _ _ _ _ ih => exact Nat.le_succ_of_le ih
  | case2 => exact Nat.le_refl _

/-- The root table with the tables of the statements, each header with the assignments up to the next one. -/
def assemble? (root : Members) : List Statement → Option Members
  | [] => some root
  | .assign key value :: rest => (assign? key.last value key.above root).bind (assemble? · rest)
  | .table key :: rest =>
    let r := takeAssignments rest
    (within? (define? key.last (assignAll? r.1)) key.above root).bind (assemble? · r.2)
  | .element key :: rest =>
    let r := takeAssignments rest
    (within? (addElement? key.last (assignAll? r.1)) key.above root).bind (assemble? · r.2)
termination_by l => l.length
decreasing_by
  · exact Nat.lt_succ_self _
  · exact Nat.lt_succ_of_le (length_takeAssignments_le rest)
  · exact Nat.lt_succ_of_le (length_takeAssignments_le rest)

/-- The members of the root table of a document. -/
def parse? (text : String) : Option Members := (statements? text.toList).bind (assemble? [])

end TemplateDebug.Toml
