/-!
# Memos

Answers under keys, each with the time when it was looked up. An answer is good for a while and then looked up again.
-/

namespace TemplateDebug

/-- An answer and the time it was looked up. -/
structure Memo.Answer (α : Type) where
  lookedUpAt : Nat
  value : α
  deriving Repr

structure Memo (κ α : Type) where
  entries : List (κ × Memo.Answer α)
  deriving Repr

namespace Memo

variable {κ α : Type} [DecidableEq κ]

def empty : Memo κ α := ⟨[]⟩

/-- The answer under a key that is younger than `ttl`; with a `ttl` of zero none is. -/
def fresh? (memo : Memo κ α) (ttl now : Nat) (key : κ) : Option α :=
  match memo.entries.lookup key with
  | some answer => if now - answer.lookedUpAt < ttl then some answer.value else none
  | none => none

/-- Keeps an answer in the place of the one under its key. -/
def record (memo : Memo κ α) (now : Nat) (key : κ) (value : α) : Memo κ α :=
  ⟨(key, ⟨now, value⟩) :: memo.entries.filter fun e => e.1 ≠ key⟩

end Memo

end TemplateDebug
