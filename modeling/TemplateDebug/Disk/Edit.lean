import TemplateDebug.Disk.Tree
/-!
# Changing a disk

The changes that other programs make to files: writing in place keeps a file's identity, a new file gets a new one and
may be read, and renaming moves a file with its identity and its time. Whether a file may be read says nothing about
whether these programs may write it. A change that the file system refuses leaves the disk as it was.
-/

namespace TemplateDebug.Disk

def change (disk : Disk) (names : List String) (f : Option Node → Option Node) : Disk :=
  { disk with root := disk.root.changeAt f names }

/-- The path without its last name. -/
def parentOf (p : Path) : Path :=
  let names := (Path.names p.text.toList).dropLast
  ⟨(if p.isAbsolute then "/" else "") ++ String.intercalate "/" names⟩

/-- Makes one directory, if its name is free. -/
def makeDirectory (disk : Disk) (p : Path) : Disk :=
  match disk.lookup true p with
  | .ok (.absent dir name) => disk.change (dir ++ [name]) fun _ => some (.dir [])
  | _ => disk

/-- Makes a directory and those above it. -/
def makeDirectories (disk : Disk) (p : Path) : Disk :=
  let names := Path.names p.text.toList
  let base := if p.isAbsolute then "/" else ""
  (List.range names.length).foldl
    (fun disk n => disk.makeDirectory ⟨base ++ String.intercalate "/" (names.take (n + 1))⟩) disk

/-- Changes a file that is there. -/
def changeFile (disk : Disk) (p : Path) (f : RegularFile → RegularFile) : Disk :=
  match disk.lookup true p with
  | .ok (.found names (.file old)) => disk.change names fun _ => some (.file (f old))
  | _ => disk

/-- Puts bytes into a file, which is made if it is not there; the function is given those there before. -/
def put (disk : Disk) (p : Path) (modified : FileTime) (bytes : Bytes → Bytes) : Disk :=
  match disk.lookup true p with
  | .ok (.absent dir name) =>
    { disk.change (dir ++ [name]) fun _ =>
        some (.file { identity := disk.nextIdentity, modified, bytes := bytes [] }) with
      nextIdentity := { disk.nextIdentity with inode := disk.nextIdentity.inode + 1 } }
  | _ => disk.changeFile p fun old => { old with modified, bytes := bytes old.bytes }

/-- Writes a file in place, making the directories above it. -/
def write (disk : Disk) (p : Path) (modified : FileTime) (bytes : Bytes) : Disk :=
  (disk.makeDirectories (parentOf p)).put p modified fun _ => bytes

/-- Adds bytes at the end of a file, which is made if it is not there. -/
def append (disk : Disk) (p : Path) (modified : FileTime) (bytes : Bytes) : Disk :=
  disk.put p modified (· ++ bytes)

/-- The file can be opened for adding at its end: it is there, or its directory is. -/
def canAppend (disk : Disk) (p : Path) : Bool :=
  match disk.lookup true p with
  | .ok (.found _ (.file ..)) | .ok (.absent ..) => true
  | _ => false

/-- Sets the time of a file. -/
def touch (disk : Disk) (p : Path) (modified : FileTime) : Disk := disk.changeFile p fun old => { old with modified }

/-- Lets the program read a file, or no longer. -/
def permit (disk : Disk) (p : Path) (readable : Bool) : Disk := disk.changeFile p fun old => { old with readable }

/-- Removes a file, a link or a directory with all below it. -/
def remove (disk : Disk) (p : Path) : Disk :=
  match disk.lookup false p with
  | .ok (.found names _) => disk.change names fun _ => none
  | _ => disk

/-- Moves what a path leads to, in the place of what is there. -/
def rename (disk : Disk) (p target : Path) : Disk :=
  match disk.lookup false p with
  | .ok (.found names n) =>
    let moved := disk.change names fun _ => none
    match moved.lookup false target with
    | .ok (.found names _) => moved.change names fun _ => some n
    | .ok (.absent dir name) => moved.change (dir ++ [name]) fun _ => some n
    | .error _ => disk
  | _ => disk

/-- Makes a symbolic link. -/
def makeLink (disk : Disk) (p : Path) (target : String) : Disk :=
  match disk.lookup false p with
  | .ok (.absent dir name) => disk.change (dir ++ [name]) fun _ => some (.link target)
  | _ => disk

end TemplateDebug.Disk
