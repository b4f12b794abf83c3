/-!
# Fingerprints

What the file system tells about a file without reading it. Two fingerprints that match are taken to describe the same
bytes.
-/

namespace TemplateDebug

/-- A moment of the file system's clock: seconds and nanoseconds. -/
structure FileTime where
  seconds : Int
  nanos : Nat
  deriving DecidableEq, Repr

/-- The device and inode of a file. Replacing a file changes it, writing into a file does not. -/
structure FileIdentity where
  device : Nat
  inode : Nat
  deriving DecidableEq, Repr

structure Fingerprint where
  modified : Option FileTime
  length : Nat
  identity : Option FileIdentity
  deriving DecidableEq, Repr

/-- Both identities are unknown on one side, or equal. -/
def FileIdentity.agree : Option FileIdentity → Option FileIdentity → Bool
  | some a, some b => a == b
  | _, _ => true

/-- `current` describes the same contents: the same time, the same length, and the same identity where both have one. -/
def Fingerprint.describes (cached current : Fingerprint) : Bool :=
  cached.modified == current.modified && cached.length == current.length &&
    FileIdentity.agree cached.identity current.identity

end TemplateDebug
