import TemplateDebug.Disk.Host
/-!
# A disk in memory

A tree of files, directories and symbolic links. A path is looked up name by name from the root or from the working
directory: a double dot leads to the directory above, a link is replaced by its target, and a final slash asks for a
directory. A file that may not be read still tells its state; all directories are open. `Disk.host` answers the
questions of the program from a tree.
-/

namespace TemplateDebug

/-- A regular file, which the program may read or not. -/
structure RegularFile where
  identity : FileIdentity
  modified : FileTime
  bytes : Bytes
  readable : Bool := true
  deriving Repr

namespace RegularFile

def fingerprint (f : RegularFile) : Fingerprint := ⟨some f.modified, f.bytes.length, some f.identity⟩

def read (f : RegularFile) : Except FileError Bytes := if f.readable then .ok f.bytes else .error .permissionDenied

end RegularFile

/-- What a name in a directory stands for. A directory lists its entries by name. -/
inductive Node where
  | file (file : RegularFile)
  | dir (entries : List (String × Node))
  | link (target : String)
  deriving Repr, Inhabited

/-- A disk, the directory that relative paths start from, and the identity of the next new file. -/
structure Disk where
  root : Node
  workingDirectory : List String
  nextIdentity : FileIdentity
  deriving Repr

namespace Node

/-! ## The files below a directory -/

mutual
/-- The regular files at or below a node, under the path given; a directory whose path is too long cannot be opened. -/
def files (path : Path) : Node → List Path
  | file .. => [path]
  | dir entries => if 4095 < path.text.utf8ByteSize then [] else filesIn path entries
  | link _ => []

def filesIn (path : Path) : List (String × Node) → List Path
  | [] => []
  | (name, node) :: rest => files (path.join name) node ++ filesIn path rest
end

/-! ## Changing a tree -/

/-- The entries with `name` standing for `node`, kept in the order of names. -/
def insertEntry (name : String) (node : Node) : List (String × Node) → List (String × Node)
  | [] => [(name, node)]
  | (k, n) :: rest =>
    if name = k then (name, node) :: rest
    else if name < k then (name, node) :: (k, n) :: rest
    else (k, n) :: insertEntry name node rest

def entries : Node → List (String × Node)
  | dir es => es
  | _ => []

/-- The tree with what `change` makes of the node at the end of the names; none removes it. -/
def changeAt (change : Option Node → Option Node) : List String → Node → Node
  | [], node => (change (some node)).getD node
  | [name], node => match change (node.entries.lookup name) with
    | some n => dir (insertEntry name n node.entries)
    | none => dir (node.entries.filter fun e => e.1 ≠ name)
  | name :: rest, node => match node.entries.lookup name with
    | some n => dir (insertEntry name (changeAt change rest n) node.entries)
    | none => node

end Node

namespace Disk

/-! ## Looking up a path -/

/-- Where a path leads: to a node, or to a name that its directory does not have. Names count from the root. -/
inductive Place where
  | found (names : List String) (node : Node)
  | absent (directory : List String) (name : String)

/-- The names to look up for a path; a final slash asks for the directory itself. -/
def steps (path : String) : List String :=
  Path.names path.toList ++ if path.toList.getLast? = some '/' then ["."] else []

def namesOf (above : List (String × Node)) : List String := (above.map (·.1)).reverse

/-- A chain of links this long is a loop. -/
def linkLimit : Nat := 40

/-- Follows names from a node, whose ancestors are in `above` with their names, nearest first; where a link was
replaced, `jump` goes on. A link at the very end is followed if `follow` says so. -/
def walk (root : Node) (follow : Bool) (jump : List (String × Node) → List String → Except FileError Place)
    (above : List (String × Node)) : List String → Except FileError Place
  | [] => .ok (.found (namesOf above) ((above.head?.map (·.2)).getD root))
  | name :: rest =>
    match (above.head?.map (·.2)).getD root with
    | .dir entries =>
      if name = "." then walk root follow jump above rest
      else if name = ".." then walk root follow jump above.tail rest
      else if 255 < name.utf8ByteSize then .error .nameTooLong
      else match entries.lookup name with
        | none => if rest.isEmpty then .ok (.absent (namesOf above) name) else .error .notFound
        | some (.link target) =>
          if rest.isEmpty && !follow then .ok (.found (namesOf above ++ [name]) (.link target))
          else jump (if (Path.mk target).isAbsolute then [] else above) (steps target ++ rest)
        | some node => walk root follow jump ((name, node) :: above) rest
    | _ => .error .notDirectory

/-- Follows names from a node, replacing at most so many links. -/
def descend (root : Node) (follow : Bool) : Nat → List (String × Node) → List String → Except FileError Place
  | 0 => walk root follow fun _ _ => .error .linkLoop
  | links + 1 => walk root follow (descend root follow links)

/-- The directories of a chain of names, nearest first. -/
def ancestors (root : Node) (names : List String) : List (String × Node) :=
  (names.foldl (fun (acc : Node × List (String × Node)) name =>
    let n := (acc.1.entries.lookup name).getD (.dir [])
    (n, (name, n) :: acc.2)) (root, [])).2

/-- The place a path leads to. -/
def lookup (disk : Disk) (follow : Bool) (p : Path) : Except FileError Place :=
  if p.text.isEmpty then .error .notFound
  else if p.text.toList.contains (Char.ofNat 0) then .error .nulInPath
  else if 4095 < p.text.utf8ByteSize then .error .nameTooLong
  else
    let above := if p.isAbsolute then [] else ancestors disk.root disk.workingDirectory
    descend disk.root follow linkLimit above (steps p.text)

/-- The node a path leads to. -/
def node (disk : Disk) (p : Path) : Except FileError Node :=
  match disk.lookup true p with
  | .ok (.found _ n) => .ok n
  | .ok (.absent ..) => .error .notFound
  | .error e => .error e

/-! ## What the program asks -/

def stat (disk : Disk) (p : Path) : Except FileError FileState :=
  match disk.node p with
  | .ok (.file f) => .ok (.regular f.fingerprint)
  | .ok _ => .ok .directory
  | .error e => .error e

def read (disk : Disk) (p : Path) : Except FileError Bytes :=
  match disk.node p with
  | .ok (.file f) => f.read
  | .ok _ => .error .isDirectory
  | .error e => .error e

def filesBelow (disk : Disk) (p : Path) : List Path :=
  match disk.node p with
  | .ok (.dir entries) => Node.filesIn p entries
  | _ => []

/-- The disk as a host of pure functions, at the time `now`; events are dropped. -/
def host (disk : Disk) (now : Nat) : Host Id where
  now := now
  stat := disk.stat
  read := disk.read
  filesBelow := disk.filesBelow
  log _ := ()

/-- The disk as a host that gathers events. -/
def recordingHost (disk : Disk) (now : Nat) : Host (StateM (List Log.Event)) where
  now := pure now
  stat p := pure (disk.stat p)
  read p := pure (disk.read p)
  filesBelow p := pure (disk.filesBelow p)
  log e := modify (· ++ [e])

end Disk

end TemplateDebug
