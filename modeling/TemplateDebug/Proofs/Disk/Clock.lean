import Mathlib.Data.Stream.Defs
import TemplateDebug.Disk.Tree
/-!
# A disk beside a clock that goes on

The host of a disk whose clock may show any time whenever it is read. What holds for every clock holds however much
time passes while a message is handled, or between two messages.
-/

namespace TemplateDebug

/-- The times that the clock will show, one after the other. -/
abbrev Clock := Stream' Nat

/-- The disk as a host, each look at the clock taking the next time; events are dropped. -/
def Disk.tickingHost (disk : Disk) : Host (StateM Clock) where
  now clock := (clock.head, clock.tail)
  stat p := pure (disk.stat p)
  read p := pure (disk.read p)
  filesBelow p := pure (disk.filesBelow p)
  log _ := pure ()

/-- A step that only gives a result leaves the state as it is. -/
theorem stateM_pure {σ α : Type} (a : α) (s : σ) : (StateT.pure a : StateM σ α) s = (a, s) := rfl

/-- Whatever the clock shows, the result satisfies `P`. -/
def Always {α : Type} (x : StateM Clock α) (P : α → Prop) : Prop := ∀ clock, P (x clock).1

namespace Always

variable {α β : Type} {x : StateM Clock α} {f : α → StateM Clock β} {P Q : α → Prop} {R : β → Prop}

theorem of_pure {a : α} (h : P a) : Always (pure a) P := fun _ => h

theorem bind (h : Always x fun a => Always (f a) R) : Always (x >>= f) R := fun clock => h clock (x clock).2

theorem mono (h : Always x P) (hpq : ∀ a, P a → Q a) : Always x Q := fun clock => hpq _ (h clock)

/-- The rule for a step and the rest: what the first gives is all the rest needs to know. -/
theorem andThen (h : Always x P) (hf : ∀ a, P a → Always (f a) R) : Always (x >>= f) R := bind (h.mono hf)

/-- What holds of all results of a step in two ways holds in both. -/
theorem and (hp : Always x P) (hq : Always x Q) : Always x fun a => P a ∧ Q a := fun clock => ⟨hp clock, hq clock⟩

theorem trivial : Always x fun _ => True := fun _ => True.intro

/-- Whatever a step gives, it gives it at some time. -/
theorem answer (x : StateM Clock α) : Always x fun a => ∃ clock, (x clock).1 = a := fun clock => ⟨clock, rfl⟩

/-- The rule for a step of which the rest needs to know nothing. -/
theorem any (hf : ∀ a, Always (f a) R) : Always (x >>= f) R := trivial.andThen fun a _ => hf a

end Always

namespace Disk

variable {β : Type} {R : β → Prop} {disk : Disk} {p : Path}

/-- The rule for a look at the clock, where the result tells the time that it showed. -/
theorem at_now {f : Nat → StateM Clock β} {R : Nat → β → Prop} (h : ∀ now, Always (f now) (R now)) (clock : Clock) :
    R clock.head ((disk.tickingHost.now >>= f) clock).1 := h clock.head clock.tail

theorem always_now {f : Nat → StateM Clock β} (h : ∀ now, Always (f now) R) :
    Always (disk.tickingHost.now >>= f) R := fun clock => h clock.head clock.tail

theorem always_stat {f : Except FileError FileState → StateM Clock β} (h : Always (f (disk.stat p)) R) :
    Always (disk.tickingHost.stat p >>= f) R := h

theorem always_read {f : Except FileError Bytes → StateM Clock β} (h : Always (f (disk.read p)) R) :
    Always (disk.tickingHost.read p >>= f) R := h

theorem always_filesBelow {f : List Path → StateM Clock β} (h : Always (f (disk.filesBelow p)) R) :
    Always (disk.tickingHost.filesBelow p >>= f) R := h

theorem always_log {f : Unit → StateM Clock β} {e : Log.Event} (h : Always (f ()) R) :
    Always (disk.tickingHost.log e >>= f) R := h

end Disk

end TemplateDebug
