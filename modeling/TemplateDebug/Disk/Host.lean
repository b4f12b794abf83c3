import TemplateDebug.Disk.Fingerprint
import TemplateDebug.Log.Event
import TemplateDebug.Path.Basic
import TemplateDebug.Text.Utf8
/-!
# The host

What the program asks of the machine it runs on: the time, the state of files, and a place for log events. All rules
are written against this interface, so they run on a real machine, and on a snapshot of a disk as pure functions.
-/

namespace TemplateDebug

/-- Why the file system refuses a path. -/
inductive FileError where
  | notFound
  | permissionDenied
  | notDirectory
  | isDirectory
  | nameTooLong
  | linkLoop
  | nulInPath
  deriving DecidableEq, Repr

def FileError.message : FileError → String
  | notFound => "No such file or directory (os error 2)"
  | permissionDenied => "Permission denied (os error 13)"
  | notDirectory => "Not a directory (os error 20)"
  | isDirectory => "Is a directory (os error 21)"
  | nameTooLong => "File name too long (os error 36)"
  | linkLoop => "Too many levels of symbolic links (os error 40)"
  | nulInPath => "file name contained an unexpected NUL byte"

/-- What a path leads to: a regular file with its fingerprint, or a directory. -/
inductive FileState where
  | regular (fingerprint : Fingerprint)
  | directory
  deriving DecidableEq, Repr

/-- The machine, as seen by the program. The clock counts nanoseconds and never goes back; `filesBelow` lists the
regular files under a directory, depth first, the entries of each directory by name, links left out; where there is no
directory it lists none. -/
structure Host (m : Type → Type) where
  now : m Nat
  stat : Path → m (Except FileError FileState)
  read : Path → m (Except FileError Bytes)
  filesBelow : Path → m (List Path)
  log : Log.Event → m Unit

namespace Host

variable {m : Type → Type} [Monad m]

/-- The path leads to a regular file. -/
def isFile (host : Host m) (p : Path) : m Bool := do
  match ← host.stat p with
  | .ok (.regular _) => pure true
  | _ => pure false

/-- The first of the paths that leads to a regular file. -/
def firstFile? (host : Host m) : List Path → m (Option Path)
  | [] => pure none
  | p :: ps => do if ← host.isFile p then pure (some p) else host.firstFile? ps

end Host

end TemplateDebug
