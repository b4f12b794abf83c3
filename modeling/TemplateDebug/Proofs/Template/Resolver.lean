import Mathlib.Data.Set.Operations
import TemplateDebug.Proofs.Disk.Answers
import TemplateDebug.Proofs.Entries
/-!
# Remembered references

A resolver whose answers are those of the disk as it is answers as a search of that disk would. One that keeps answers
for no time at all always does.
-/

namespace TemplateDebug.Template.Resolver

variable {disk : Disk} {r : Resolver} {ref : String}

/-- Nothing is remembered, or what is remembered is what a search of the disk would give. -/
def Current (disk : Disk) (r : Resolver) : Prop :=
  r.ttl = 0 ∨ ∀ x ∈ r.memo.entries, x.2.value = disk.search r.webRoots x.1

theorem current_new (disk : Disk) (webRoots : List Path) (ttl : Nat) : (new webRoots ttl).Current disk :=
  .inr fun x hx => by cases hx

/-- What a question does to the resolver besides the answer: its directories and its limit stay. -/
structure Kept (disk : Disk) (r r' : Resolver) : Prop where
  current : r'.Current disk
  webRoots : r'.webRoots = r.webRoots
  ttl : r'.ttl = r.ttl

theorem firstFile?_eq (disk : Disk) (ps : List Path) :
    Always (disk.tickingHost.firstFile? ps) fun found => found = ps.find? disk.isFile := by
  induction ps with
  | nil => exact .of_pure rfl
  | cons p ps ih =>
    refine (disk.always_isFile p).andThen ?_
    rintro _ rfl
    cases h : disk.isFile p with
    | true => exact .of_pure (by simp [h])
    | false => simpa [h] using ih

/-- What a question does on a disk: an answer that is fresh is given as it is, any other is searched for and recorded at
the time of the question. -/
inductive Answered (disk : Disk) (now : Nat) (ref : String) (r : Resolver) : Option Path × Resolver → Prop where
  | remembered {answer : Option Path} (fresh : r.memo.fresh? r.ttl now ref = some answer) :
      Answered disk now ref r (answer, r)
  | searched (stale : r.memo.fresh? r.ttl now ref = none) :
      Answered disk now ref r
        (disk.search r.webRoots ref, { r with memo := r.memo.record now ref (disk.search r.webRoots ref) })

theorem resolve_answered (r : Resolver) (disk : Disk) (ref : String) (clock : Clock) :
    Answered disk clock.head ref r (r.resolve disk.tickingHost ref clock).1 := by
  refine Disk.at_now (R := fun now => Answered disk now ref r) (fun now => ?_) clock
  cases hf : r.memo.fresh? r.ttl now ref with
  | some known => exact .of_pure (.remembered hf)
  | none =>
    refine (firstFile?_eq disk _).andThen ?_
    rintro _ rfl
    exact Disk.always_log (.of_pure (.searched hf))

/-- The answer of the resolver is that of a search. -/
theorem resolve_current (h : r.Current disk) :
    Always (r.resolve disk.tickingHost ref) fun x => x.1 = disk.search r.webRoots ref ∧ Kept disk r x.2 := by
  refine Disk.always_now fun now => ?_
  cases hf : r.memo.fresh? r.ttl now ref with
  | some known =>
    obtain ⟨t, hm, hlt⟩ := Memo.mem_of_fresh? hf
    refine .of_pure ⟨?_, h, rfl, rfl⟩
    rcases h with h0 | h
    · omega
    · exact h _ hm
  | none =>
    refine (firstFile?_eq disk _).andThen ?_
    rintro _ rfl
    refine Disk.always_log (.of_pure ⟨rfl, ?_, rfl, rfl⟩)
    rcases h with h0 | h
    · exact .inl h0
    · refine .inr fun x hx => ?_
      rcases Memo.mem_record hx with rfl | hx
      · rfl
      · exact h x hx

/-! ## Answers of machines -/

variable {machines : Set (Host (StateM Clock))} {machine : Host (StateM Clock)} {webRoots : List Path}
  {found : Option Path}

/-- The answer is that of a search on one of the machines. -/
def Searched (machines : Set (Host (StateM Clock))) (webRoots : List Path) (ref : String) (found : Option Path) : Prop :=
  ∃ machine ∈ machines, ∃ clock : Clock, (machine.firstFile? (places webRoots ref) clock).1 = found

/-- On disks, such an answer is that of a disk as it was. -/
theorem searched_disks_iff {past : Set Disk} :
    Searched (Disk.tickingHost '' past) webRoots ref found ↔ ∃ disk ∈ past, disk.search webRoots ref = found := by
  constructor
  · rintro ⟨_, ⟨disk, hd, rfl⟩, clock, rfl⟩
    exact ⟨disk, hd, (firstFile?_eq disk _ clock).symm⟩
  · rintro ⟨disk, hd, rfl⟩
    exact ⟨_, ⟨disk, hd, rfl⟩, Stream'.const 0, firstFile?_eq disk _ _⟩

/-- Every answer that is remembered was found by a search. -/
def SearchedBy (machines : Set (Host (StateM Clock))) (r : Resolver) : Prop :=
  ∀ x ∈ r.memo.entries, Searched machines r.webRoots x.1 x.2.value

theorem searchedBy_new (machines : Set (Host (StateM Clock))) (webRoots : List Path) (ttl : Nat) :
    (new webRoots ttl).SearchedBy machines :=
  fun x hx => by cases hx

/-- However long answers are good, one is that of some search. -/
theorem resolve_searched (h : r.SearchedBy machines) (hm : machine ∈ machines) (ref : String) :
    Always (r.resolve machine ref) fun x =>
      Searched machines r.webRoots ref x.1 ∧ x.2.SearchedBy machines ∧ x.2.webRoots = r.webRoots := by
  refine .any fun now => ?_
  cases hf : r.memo.fresh? r.ttl now ref with
  | some known =>
    obtain ⟨t, hmem, -⟩ := Memo.mem_of_fresh? hf
    have hsearched : Searched machines r.webRoots ref known := h (ref, ⟨t, known⟩) hmem
    exact .of_pure ⟨hsearched, h, rfl⟩
  | none =>
    refine (Always.answer (machine.firstFile? (places r.webRoots ref))).andThen ?_
    rintro found ⟨clock, hfound⟩
    have hsearched : Searched machines r.webRoots ref found := ⟨machine, hm, clock, hfound⟩
    refine .any fun _ => .of_pure ⟨hsearched, ?_, rfl⟩
    intro x hx
    rcases Memo.mem_record hx with rfl | hx
    · exact hsearched
    · exact h x hx

end TemplateDebug.Template.Resolver
