/-!
# Bounded lists by recency

Values under keys, the most recently used first. A key that is put or touched moves to the front, and the least
recently used keys leave when there are more than the bound allows.
-/

namespace TemplateDebug

structure Recency (κ α : Type) where
  bound : Nat
  entries : List (κ × α)
  deriving Repr

namespace Recency

variable {κ α : Type} [DecidableEq κ]

/-- The empty list; a bound of zero counts as one. -/
def empty (bound : Nat) : Recency κ α := ⟨max 1 bound, []⟩

def size (r : Recency κ α) : Nat := r.entries.length

def find? (r : Recency κ α) (key : κ) : Option α := r.entries.lookup key

def contains (r : Recency κ α) (key : κ) : Bool := (r.find? key).isSome

def erase (r : Recency κ α) (key : κ) : Recency κ α := { r with entries := r.entries.filter fun e => e.1 ≠ key }

/-- Puts a value at the front, in the place of the one under its key. -/
def put (r : Recency κ α) (key : κ) (value : α) : Recency κ α :=
  { r with entries := ((key, value) :: (r.erase key).entries).take r.bound }

/-- A new bound, which takes effect at once. -/
def resize (r : Recency κ α) (bound : Nat) : Recency κ α := ⟨max 1 bound, r.entries.take (max 1 bound)⟩

def clear (r : Recency κ α) : Recency κ α := { r with entries := [] }

end Recency

end TemplateDebug
