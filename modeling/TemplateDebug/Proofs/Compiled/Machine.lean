import TemplateDebug.Proofs.Compiled.Staleness
/-!
# Cached markers on any machine

A machine may refuse to read a file whose state it has told, and may answer differently at each step. Whatever it
answers, a read makes its path the most recent one, or fails and takes its entry out. When what reading a file gives
changes only with its fingerprint, a checked read gives the markers of the file as the machine reads it.
-/

namespace TemplateDebug

/-- The markers of a file as the machine reads it; none if the path leads to no regular file or reading is refused. -/
def Host.markers (machine : Host Id) (p : Path) : Option (Array Marker) :=
  match Id.run (machine.stat p), Id.run (machine.read p) with
  | .ok (.regular _), .ok bytes => some (MarkerCache.markersIn bytes)
  | _, _ => none

/-- What reading a file gives, its bytes or a refusal, changes only with its fingerprint. -/
def Host.TellsVersions (machines : Set (Host Id)) : Prop :=
  ∀ a ∈ machines, ∀ b ∈ machines, ∀ (p q : Path) (f g : Fingerprint), p.components = q.components →
    Id.run (a.stat p) = .ok (.regular f) → Id.run (b.stat q) = .ok (.regular g) →
    Id.run (a.read p) ≠ Id.run (b.read q) → f.Differs g

theorem Host.TellsVersions.mono {machines machines' : Set (Host Id)} (h : TellsVersions machines')
    (hsub : machines ⊆ machines') : TellsVersions machines := fun a ha b hb => h a (hsub ha) b (hsub hb)

/-- Disks that tell versions apart are machines that do: a regular file can be read, under each of its spellings. -/
theorem Disk.TellsVersions.hosts {disks : Set Disk} (h : Disk.TellsVersions disks) :
    Host.TellsVersions {machine | ∃ disk ∈ disks, ∃ now, disk.host now = machine} := by
  rintro _ ⟨a, ha, _, rfl⟩ _ ⟨b, hb, _, rfl⟩ p q f g hkey hf hg hne
  have hp : p.NamesFile := Disk.namesFile_of_stat hf
  have hq : q.NamesFile := Disk.namesFile_of_stat hg
  have hg' : b.stat p = .ok (.regular g) := (Disk.stat_congr hkey hp hq).trans hg
  have hread : b.read p = b.read q := Disk.read_congr hkey hp hq
  exact h a ha b hb p f g hf hg' (hread ▸ hne)

namespace MarkerCache

/-- An operation on a cache, on a machine as it answers while the operation is done. -/
structure Step where
  machine : Host Id
  operation : Operation

/-- The markers that a step gives, and the cache after it. -/
def Step.run (s : Step) (cache : MarkerCache) : Option (Array Marker) × MarkerCache :=
  match s.operation with
  | .readCached p => Id.run (cache.readCached s.machine p)
  | .readFresh p => Id.run (cache.readFresh s.machine p)
  | .updateOptions o => (none, cache.updateOptions o)
  | .clear => (none, cache.clear)

/-- The cache after these steps, the latest first. -/
def afterSteps (o : Options) : List Step → MarkerCache
  | [] => new o
  | s :: earlier => (s.run (afterSteps o earlier)).2

/-- The limits in force after these steps: those that were set last. -/
def optionsAfterSteps (o : Options) : List Step → Options
  | [] => o
  | s :: earlier => match s.operation with
    | .updateOptions o' => o'
    | _ => optionsAfterSteps o earlier

/-- The machines of these steps. -/
def machines (steps : List Step) : Set (Host Id) := {machine | ∃ s ∈ steps, s.machine = machine}

variable {machine : Host Id} {past : Set (Host Id)} {cache : MarkerCache} {p q : Path} {now : Nat} {s : Step}
  {r : Option (Array Marker) × MarkerCache}

/-! ## One step -/

/-- How a check ends on a machine: with an entry that still describes the file, with the file as it is read now, or
with a path that leads to no regular file or to one that cannot be read. -/
inductive Examined (machine : Host Id) (now : Nat) (p : Path) (cache : MarkerCache) :
    Option (Array Marker) × MarkerCache → Prop where
  | current {f : Fingerprint} {e : Entry} (stat : Id.run (machine.stat p) = .ok (.regular f))
      (found : cache.entries.find? p.components = some e) (describes : e.fingerprint.describes f = true) :
      Examined machine now p cache
        (some e.markers,
          { cache with metadataReads := cache.metadataReads + 1 }.keep p { e with checkedAt := now })
  | loaded {f : Fingerprint} {bytes : Bytes} (stat : Id.run (machine.stat p) = .ok (.regular f))
      (read : Id.run (machine.read p) = .ok bytes) :
      Examined machine now p cache
        (some (markersIn bytes),
          { cache with metadataReads := cache.metadataReads + 1 }.keep p ⟨f, markersIn bytes, now⟩)
  | refused (unread : machine.markers p = none) :
      Examined machine now p cache (none, { cache with metadataReads := cache.metadataReads + 1 }.drop p)

theorem examined (machine : Host Id) (now : Nat) (p : Path) (cache : MarkerCache) :
    Examined machine now p cache (Id.run (cache.check machine now p)) := by
  unfold check load
  simp only [bind, pure, Id.run]
  cases hs : (machine.stat p : Except FileError FileState) with
  | error e => exact .refused (by simp [Host.markers, Id.run, hs])
  | ok state =>
    cases state with
    | directory => exact .refused (by simp [Host.markers, Id.run, hs])
    | regular f =>
      dsimp only
      cases hc : current? { cache with metadataReads := cache.metadataReads + 1 } f p with
      | some e =>
        obtain ⟨he, hf⟩ := Option.filter_eq_some_iff.1 hc
        exact .current hs he hf
      | none =>
        dsimp only
        cases hr : (machine.read p : Except FileError Bytes) with
        | error e => exact .refused (by simp [Host.markers, Id.run, hs, hr])
        | ok bytes => exact .loaded hs hr

/-- A read trusts an entry, or examines the file. -/
theorem Step.run_of_path? (s : Step) (cache : MarkerCache) (h : s.operation.path? = some p) :
    (∃ e, cache.entries.find? p.components = some e ∧ s.run cache = (some e.markers, cache.keep p e)) ∨
      Examined s.machine (Id.run s.machine.now) p cache (s.run cache) := by
  unfold Step.run
  cases ho : s.operation with
  | readCached q =>
    rw [ho] at h
    cases h
    dsimp only
    cases hc : cache.trusted? (Id.run s.machine.now) p with
    | some e =>
      refine .inl ⟨e, (Option.filter_eq_some_iff.1 hc).1, ?_⟩
      simp only [readCached, bind, Id.run] at hc ⊢
      rw [hc]
      rfl
    | none =>
      refine .inr ?_
      have hr : Id.run (cache.readCached s.machine p) = Id.run (cache.check s.machine (Id.run s.machine.now) p) := by
        simp only [readCached, bind, Id.run] at hc ⊢
        rw [hc]
      rw [hr]
      exact examined ..
  | readFresh q =>
    rw [ho] at h
    cases h
    exact .inr (examined ..)
  | updateOptions o => simp [ho, Operation.path?] at h
  | clear => simp [ho, Operation.path?] at h

/-- A read puts its path first, or fails and takes its entry out; all other entries stay in their order. -/
theorem Step.entries_of_path? (s : Step) (cache : MarkerCache) (h : s.operation.path? = some p) :
    (∃ ms e, (s.run cache).1 = some ms ∧ (s.run cache).2.entries = cache.entries.put p.components e) ∨
      (s.run cache).1 = none ∧ (s.run cache).2.entries = cache.entries.erase p.components := by
  rcases s.run_of_path? cache h with ⟨e, -, hr⟩ | hr
  · rw [hr]
    exact .inl ⟨_, _, rfl, rfl⟩
  · generalize s.run cache = r at hr ⊢
    cases hr with
    | current | loaded => exact .inl ⟨_, _, rfl, rfl⟩
    | refused => exact .inr ⟨rfl, rfl⟩

/-! ## Versions -/

/-- The entry was parsed from what one of the machines gave under this key. -/
def ReadOn (past : Set (Host Id)) (key : List Path.Component) (e : Entry) : Prop :=
  ∃ machine ∈ past, ∃ p bytes, p.components = key ∧ Id.run (machine.stat p) = .ok (.regular e.fingerprint) ∧
    Id.run (machine.read p) = .ok bytes ∧ e.markers = markersIn bytes

/-- Every entry was parsed from what one of the machines gave. -/
def KnownOn (past : Set (Host Id)) (cache : MarkerCache) : Prop :=
  ∀ x ∈ cache.entries.entries, ReadOn past x.1 x.2

theorem KnownOn.keep {e : Entry} (h : cache.KnownOn past) (he : ReadOn past p.components e) :
    (cache.keep p e).KnownOn past := by
  intro x hx
  rcases Recency.mem_put hx with rfl | hx
  · exact he
  · exact h x hx

theorem KnownOn.find? {e : Entry} (h : cache.KnownOn past) (he : cache.entries.find? p.components = some e) :
    ReadOn past p.components e :=
  h (p.components, e) (Recency.mem_of_find? he)

/-- A check keeps a cache of versions one, the version of its machine joining them. -/
theorem Examined.knownOn (h : Examined machine now p cache r) (hk : cache.KnownOn past) (hm : machine ∈ past) :
    r.2.KnownOn past := by
  cases h with
  | current _ he _ =>
    have hread : ReadOn past p.components _ := hk.find? he
    exact KnownOn.keep hk hread
  | loaded hs hb => exact KnownOn.keep hk ⟨machine, hm, p, _, rfl, hs, hb, rfl⟩
  | refused _ => exact fun x hx => hk x (Recency.mem_erase hx)

/-- When fingerprints tell what reading gives, a check gives the markers of the file as the machine reads it. -/
theorem Examined.markers_eq (h : Examined machine now p cache r) (hk : cache.KnownOn past) (hm : machine ∈ past)
    (ht : Host.TellsVersions past) : r.1 = machine.markers p := by
  cases h with
  | @current f e hs he hf =>
    obtain ⟨old, hold, q, bytes, hq, hstat, hread, hms⟩ := hk.find? he
    have hsame : Id.run (old.read q) = Id.run (machine.read p) := by
      by_contra hne
      exact (Fingerprint.describes_iff _ _).1 hf (ht old hold machine hm q p _ f hq hstat hs hne)
    simp only [Host.markers, hs, ← hsame, hread, hms]
  | loaded hs hb => simp only [Host.markers, hs, hb]
  | refused hnone => exact hnone.symm

theorem machines_mono {steps steps' : List Step} (h : steps ⊆ steps') : machines steps ⊆ machines steps' := by
  rintro _ ⟨s, hs, rfl⟩
  exact ⟨s, h hs, rfl⟩

/-- After any steps, the entries were parsed from what their machines gave. -/
theorem knownOn_afterSteps (o : Options) {steps : List Step} (h : machines steps ⊆ past) :
    (afterSteps o steps).KnownOn past := by
  induction steps with
  | nil =>
    intro x hx
    cases hx
  | cons s earlier ih =>
    have hk : (afterSteps o earlier).KnownOn past :=
      ih fun _ hm => h (machines_mono (List.subset_cons_self s earlier) hm)
    have hm : s.machine ∈ past := h ⟨s, List.mem_cons_self, rfl⟩
    rw [afterSteps]
    cases hp : s.operation.path? with
    | some p =>
      rcases s.run_of_path? (afterSteps o earlier) hp with ⟨e, he, hr⟩ | hr
      · rw [hr]
        exact hk.keep (hk.find? he)
      · exact hr.knownOn hk hm
    | none =>
      unfold Step.run
      cases ho : s.operation with
      | readCached | readFresh => simp [ho, Operation.path?] at hp
      | updateOptions => exact fun x hx => hk x (Recency.mem_resize hx)
      | clear => exact fun x hx => by cases hx

end MarkerCache

end TemplateDebug
