import TemplateDebug.Proofs.Cache.Recency
import TemplateDebug.Proofs.Compiled.Machine
/-!
# Which entries are kept

A cache of markers never has more entries than the limits in force allow, at least one. Under fixed limits, the entry of
a path is kept as long as the path was last read successfully and fewer other paths than the limit were read since. A
read that fails takes out the entry of its own path and leaves the order of the others as it is.
-/

namespace TemplateDebug.MarkerCache

variable {o : Options} {steps earlier : List Step} {s : Step} {p q : Path}

/-- The reads among these steps, the latest first: the components of each path, and whether it was read successfully. -/
def reads (o : Options) : List Step → List (List Path.Component × Bool)
  | [] => []
  | s :: earlier => match s.operation.path? with
    | some p => (p.components, (s.run (afterSteps o earlier)).1.isSome) :: reads o earlier
    | none => reads o earlier

/-! ## The bound -/

/-- The bound is that of the limits in force, and it is kept to. -/
theorem bounded_afterSteps (o : Options) (steps : List Step) :
    (afterSteps o steps).entries.Bounded ∧
      (afterSteps o steps).entries.bound = max 1 (optionsAfterSteps o steps).maxEntries := by
  induction steps with
  | nil => exact ⟨Recency.bounded_empty _, rfl⟩
  | cons s earlier ih =>
    obtain ⟨hbounded, hbound⟩ := ih
    rw [afterSteps, optionsAfterSteps]
    cases ho : s.operation with
    | readCached p | readFresh p =>
      have hp : s.operation.path? = some p := by rw [ho]; rfl
      dsimp only
      rcases s.entries_of_path? (afterSteps o earlier) hp with ⟨ms, e, -, he⟩ | ⟨-, he⟩
      · rw [he]
        exact ⟨hbounded.put _ _, hbound⟩
      · rw [he]
        exact ⟨hbounded.erase _, hbound⟩
    | updateOptions o' =>
      rw [Step.run, ho]
      exact ⟨Recency.bounded_resize _ _, rfl⟩
    | clear =>
      rw [Step.run, ho]
      exact ⟨hbounded.clear, hbound⟩

/-! ## Recency -/

theorem optionsAfterSteps_of_reads (hreads : ∀ s ∈ steps, s.operation.path?.isSome = true) :
    optionsAfterSteps o steps = o := by
  induction steps with
  | nil => rfl
  | cons s earlier ih =>
    have hs := hreads s List.mem_cons_self
    rw [optionsAfterSteps]
    cases ho : s.operation with
    | readCached | readFresh => exact ih fun s' hs' => hreads s' (List.mem_cons_of_mem _ hs')
    | updateOptions | clear => simp [ho, Operation.path?] at hs

/-- After reads alone, the paths with entries are those that a list by recency holds after these uses. -/
theorem keys_afterSteps (hreads : ∀ s ∈ steps, s.operation.path?.isSome = true) :
    (afterSteps o steps).entries.keys = Recency.held (max 1 o.maxEntries) (reads o steps) := by
  induction steps with
  | nil => rfl
  | cons s earlier ih =>
    have hearlier : ∀ s' ∈ earlier, s'.operation.path?.isSome = true :=
      fun s' hs' => hreads s' (List.mem_cons_of_mem _ hs')
    have hbound : (afterSteps o earlier).entries.bound = max 1 o.maxEntries := by
      rw [(bounded_afterSteps o earlier).2, optionsAfterSteps_of_reads hearlier]
    obtain ⟨p, hp⟩ := Option.isSome_iff_exists.1 (hreads s List.mem_cons_self)
    rw [afterSteps, reads, hp]
    dsimp only
    rcases s.entries_of_path? (afterSteps o earlier) hp with ⟨ms, e, hms, he⟩ | ⟨hnone, he⟩
    · rw [he, hms, Recency.keys_put, ih hearlier, hbound]
      rfl
    · rw [he, hnone, Recency.keys_erase, ih hearlier]
      rfl

/-- After any steps there are no more entries than the limit in force allows, and at least one is allowed. A read that
fails takes out at most the entry of its path, and leaves the others in their order. After reads alone, a path that was
last read successfully has an entry if fewer other paths than the limit were read successfully since; and when every
read succeeded, no other path has one. -/
theorem kept_by_recency (o : Options) (steps : List Step) :
    (afterSteps o steps).size ≤ max 1 (optionsAfterSteps o steps).maxEntries ∧
    (∀ (s : Step) (q : Path), s.operation.path? = some q → (s.run (afterSteps o steps)).1 = none →
      (s.run (afterSteps o steps)).2.entries.entries =
        (afterSteps o steps).entries.entries.filter fun x => x.1 ≠ q.components) ∧
    ((∀ s ∈ steps, s.operation.path?.isSome = true) → ∀ p : Path,
      (∀ since, Recency.LastUse (reads o steps) p.components true since →
        (Recency.putKeys since).card < max 1 o.maxEntries → (afterSteps o steps).contains p = true) ∧
      ((∀ read ∈ reads o steps, read.2 = true) →
        ((afterSteps o steps).contains p = true ↔ ∃ since, Recency.LastUse (reads o steps) p.components true since ∧
          (Recency.putKeys since).card < max 1 o.maxEntries))) := by
  refine ⟨?_, ?_, ?_⟩
  · obtain ⟨hbounded, hbound⟩ := bounded_afterSteps o steps
    rw [← hbound]
    exact hbounded.size_le
  · intro s q hq hnone
    rcases s.entries_of_path? (afterSteps o steps) hq with ⟨ms, e, hms, -⟩ | ⟨-, he⟩
    · cases hms.symm.trans hnone
    · rw [he]
      rfl
  · intro hreads p
    have hcontains : (afterSteps o steps).contains p = true ↔
        p.components ∈ Recency.held (max 1 o.maxEntries) (reads o steps) := by
      rw [← keys_afterSteps hreads]
      exact Recency.contains_iff _ _
    rw [hcontains]
    constructor
    · intro since hlast hcard
      exact Recency.mem_held_of_lastUse hlast hcard
    · intro hsucceeded
      exact Recency.mem_held_iff hsucceeded

namespace Sample

/-- A machine with these files, and one that it refuses to read. -/
def shelf (files : List String) (refused : String) : Host Id where
  now := 0
  stat p := if files.contains p.text || p.text = refused then .ok (.regular ⟨none, 0, none⟩) else .error .notFound
  read p := if files.contains p.text then .ok [] else .error .permissionDenied
  filesBelow _ := []
  log _ := ()

/-- A read on the machine with `/a`, `/b` and `/c`, which refuses `/d`. -/
def visit (path : String) : Step := ⟨shelf ["/a", "/b", "/c", "//a"] "/d", .readCached ⟨path⟩⟩

/-- Reads of `/a`, of `/b`, of `/a` in another spelling, and of `/c`. -/
def visits : List Step := [visit "/c", visit "//a", visit "/b", visit "/a"]

end Sample

/-- Of three files that were read, two are kept: `/b` is the one that was read before the others, and a refused read of
`/d` does not change that. -/
theorem kept_by_recency_three :
    (afterSteps ⟨2, 0⟩ Sample.visits).size ≤ 2 ∧
    ((Sample.visit "/d").run (afterSteps ⟨2, 0⟩ Sample.visits)).2.entries.entries =
      ((afterSteps ⟨2, 0⟩ Sample.visits).entries.entries.filter fun x => x.1 ≠ Path.components ⟨"/d"⟩) ∧
    (afterSteps ⟨2, 0⟩ (Sample.visit "/d" :: Sample.visits)).contains ⟨"/a"⟩ = true ∧
    (afterSteps ⟨2, 0⟩ Sample.visits).contains ⟨"/b"⟩ = false ∧
    ¬ ∃ since, Recency.LastUse (reads ⟨2, 0⟩ Sample.visits) (Path.components ⟨"/b"⟩) true since ∧
      (Recency.putKeys since).card < 2 := by
  obtain ⟨hsize, hfails, hkept⟩ := kept_by_recency ⟨2, 0⟩ Sample.visits
  obtain ⟨-, -, hkept'⟩ := kept_by_recency ⟨2, 0⟩ (Sample.visit "/d" :: Sample.visits)
  have hreads : reads ⟨2, 0⟩ (Sample.visit "/d" :: Sample.visits) =
      [(Path.components ⟨"/d"⟩, false), (Path.components ⟨"/c"⟩, true)] ++
        (Path.components ⟨"/a"⟩, true) :: [(Path.components ⟨"/b"⟩, true), (Path.components ⟨"/a"⟩, true)] := by
    decide +kernel
  have hevicted : (afterSteps ⟨2, 0⟩ Sample.visits).contains ⟨"/b"⟩ = false := by decide +kernel
  refine ⟨hsize, hfails (Sample.visit "/d") ⟨"/d"⟩ rfl (by decide +kernel), ?_, hevicted, ?_⟩
  · exact (hkept' (by decide +kernel) ⟨"/a"⟩).1 _ ⟨⟨_, hreads⟩, by decide +kernel⟩ (by decide +kernel)
  · intro hrecent
    have hcontains := ((hkept (by decide +kernel) ⟨"/b"⟩).2 (by decide +kernel)).2 hrecent
    exact absurd hcontains (by rw [hevicted]; decide)

end TemplateDebug.MarkerCache
