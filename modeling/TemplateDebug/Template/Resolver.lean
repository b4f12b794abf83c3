import TemplateDebug.Cache.Memo
import TemplateDebug.Disk.Host
import TemplateDebug.Log.Notice
import TemplateDebug.Template.Reference
/-!
# Resolving references

A marker's reference is looked for below each web root in turn, and last as a path of its own. Answers, also that there
is no file, are kept for a while.
-/

namespace TemplateDebug.Template

/-- The parts of a reference between slashes and backslashes; empty parts and dots do not count. -/
def parts (ref : String) : List String := (Path.names (slashed ref).toList).filter (· ≠ ".")

/-- The places to look at below the web roots; a reference with a double dot has none. -/
def placesBelow (webRoots : List Path) (ref : String) : List Path :=
  let ps := parts ref
  if ps.isEmpty || ps.contains ".." then [] else webRoots.map fun root => ps.foldl Path.join root

/-- The reference itself, where it is an absolute path. -/
def placeItself (ref : String) : List Path := if (Path.mk ref).isAbsolute then [⟨ref⟩] else []

/-- The places to look at, in order. -/
def places (webRoots : List Path) (ref : String) : List Path := placesBelow webRoots ref ++ placeItself ref

structure Resolver where
  webRoots : List Path
  /-- How many nanoseconds an answer is good for. -/
  ttl : Nat
  memo : Memo String (Option Path)
  deriving Repr

namespace Resolver

variable {m : Type → Type} [Monad m]

def new (webRoots : List Path) (ttl : Nat) : Resolver := ⟨webRoots, ttl, Memo.empty⟩

def clear (r : Resolver) : Resolver := { r with memo := Memo.empty }

/-- The file a reference leads to, and the resolver that knows it. -/
def resolve (host : Host m) (ref : String) (r : Resolver) : m (Option Path × Resolver) := do
  let now ← host.now
  match r.memo.fresh? r.ttl now ref with
  | some known => pure (known, r)
  | none =>
    let found ← host.firstFile? (places r.webRoots ref)
    host.log (Log.Notice.resolved ref found)
    pure (found, { r with memo := r.memo.record now ref found })

end Resolver

end TemplateDebug.Template
