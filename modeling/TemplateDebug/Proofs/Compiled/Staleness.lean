import TemplateDebug.Proofs.Compiled.MarkerCache
import TemplateDebug.Proofs.Disk.Versions
/-!
# How old markers can be

A cache of markers is read, given new limits and cleared at moments of a clock that never goes back, and files change
in between. A checked read gives the markers of the file as it is. A trusted one gives those of the file as it was when
its state was last asked for, less than the debounce ago; that it was read in between without asking makes no
difference, and a file that could not be read since is not remembered from before.
-/

namespace TemplateDebug.MarkerCache

/-- What is done with a cache. -/
inductive Operation where
  | readCached (p : Path)
  | readFresh (p : Path)
  | updateOptions (o : Options)
  | clear

/-- The path that is read. -/
def Operation.path? : Operation → Option Path
  | readCached p | readFresh p => some p
  | updateOptions _ | clear => none

/-- An operation on a cache, with the disk and the time when it is done. -/
structure Moment where
  disk : Disk
  now : Nat
  operation : Operation

/-- The markers that an operation gives, and the cache after it. -/
def perform (m : Moment) (cache : MarkerCache) : Option (Array Marker) × MarkerCache :=
  match m.operation with
  | .readCached p => Id.run (cache.readCached (m.disk.host m.now) p)
  | .readFresh p => Id.run (cache.readFresh (m.disk.host m.now) p)
  | .updateOptions o => (none, cache.updateOptions o)
  | .clear => (none, cache.clear)

/-- The cache after these moments, the latest first. -/
def after (o : Options) : List Moment → MarkerCache
  | [] => new o
  | m :: earlier => (perform m (after o earlier)).2

/-- The limits in force after these moments: those that were set last. -/
def optionsAfter (o : Options) : List Moment → Options
  | [] => o
  | m :: earlier => match m.operation with
    | .updateOptions o' => o'
    | _ => optionsAfter o earlier

/-- The latest of these moments at which the state of a file was asked for by a path with these components, and that
path. -/
def lastAsked? (o : Options) (key : List Path.Component) : List Moment → Option (Moment × Path)
  | [] => none
  | m :: earlier => match m.operation.path? with
    | none => lastAsked? o key earlier
    | some p =>
      if p.components = key ∧ (perform m (after o earlier)).2.metadataReads ≠ (after o earlier).metadataReads then
        some (m, p)
      else lastAsked? o key earlier

variable {disk : Disk} {cache : MarkerCache} {p q : Path} {now : Nat} {m n : Moment} {o : Options}
  {earlier before later : List Moment} {key : List Path.Component} {ms : Array Marker}

/-! ## One moment -/

/-- With the clock taken out, a check on a disk is a function of the cache. -/
theorem check_host (disk : Disk) (now t : Nat) (p : Path) (cache : MarkerCache) (clock : Clock) :
    Id.run (cache.check (disk.host now) t p) = (cache.check disk.tickingHost t p clock).1 := by
  unfold check load
  simp only [Disk.host, Disk.tickingHost]
  cases hs : disk.stat p with
  | error e => rfl
  | ok state =>
    cases state with
    | directory => rfl
    | regular f =>
      cases hc : current? { cache with metadataReads := cache.metadataReads + 1 } f p with
      | some e => simp [bind, StateT.bind, pure, stateM_pure, Id.run, hc]
      | none => cases disk.read p <;> simp [bind, StateT.bind, pure, stateM_pure, Id.run, hc]

theorem checked_host (disk : Disk) (now t : Nat) (p : Path) (cache : MarkerCache) :
    Checked disk t p cache (Id.run (cache.check (disk.host now) t p)) := by
  rw [check_host disk now t p cache (Stream'.const 0)]
  exact check_cases disk t p cache _

/-- What an operation does: a read trusts an entry or checks the file, and the others only make the cache smaller. -/
inductive Performed (m : Moment) (cache : MarkerCache) : Option (Array Marker) × MarkerCache → Prop where
  | trusted {p : Path} {e : Entry} (operation : m.operation = .readCached p)
      (found : cache.trusted? m.now p = some e) : Performed m cache (some e.markers, cache.keep p e)
  | checked {p : Path} {r : Option (Array Marker) × MarkerCache} (path : m.operation.path? = some p)
      (check : Checked m.disk m.now p cache r) : Performed m cache r
  | updated {o : Options} (operation : m.operation = .updateOptions o) :
      Performed m cache (none, cache.updateOptions o)
  | cleared (operation : m.operation = .clear) : Performed m cache (none, cache.clear)

theorem performed (m : Moment) (cache : MarkerCache) : Performed m cache (perform m cache) := by
  unfold perform
  cases ho : m.operation with
  | readCached p =>
    show Performed m cache (Id.run (cache.readCached (m.disk.host m.now) p))
    cases hc : cache.trusted? m.now p with
    | some e =>
      have hr : Id.run (cache.readCached (m.disk.host m.now) p) = (some e.markers, cache.keep p e) := by
        simp [readCached, Disk.host, Id.run, bind, pure, hc]
      rw [hr]
      exact .trusted ho hc
    | none =>
      have hr : Id.run (cache.readCached (m.disk.host m.now) p) =
          Id.run (cache.check (m.disk.host m.now) m.now p) := by
        simp [readCached, Disk.host, Id.run, bind, hc]
      rw [hr]
      exact .checked (by rw [ho]; rfl) (checked_host ..)
  | readFresh p => exact .checked (by rw [ho]; rfl) (checked_host ..)
  | updateOptions o => exact .updated ho
  | clear => exact .cleared ho

theorem Checked.metadataReads {r : Option (Array Marker) × MarkerCache} (h : Checked disk now p cache r) :
    r.2.metadataReads = cache.metadataReads + 1 := by
  cases h <;> rfl

/-- A check leaves the entries of other paths, and of this one at most what it found out. -/
theorem Checked.mem_cases {r : Option (Array Marker) × MarkerCache} (h : Checked disk now p cache r)
    {x : List Path.Component × Entry} (hx : x ∈ r.2.entries.entries) :
    (x.1 = p.components ∧ x.2.checkedAt = now ∧ r.1 = some x.2.markers) ∨
      x.1 ≠ p.components ∧ x ∈ cache.entries.entries := by
  cases h with
  | current | loaded =>
    rcases Recency.mem_put_cases hx with rfl | hx
    · exact .inl ⟨rfl, rfl, rfl⟩
    · exact .inr ⟨Recency.key_ne_of_mem_erase hx, Recency.mem_erase hx⟩
  | dropped => exact .inr ⟨Recency.key_ne_of_mem_erase hx, Recency.mem_erase hx⟩

theorem Checked.debounce {r : Option (Array Marker) × MarkerCache} (h : Checked disk now p cache r) :
    r.2.debounce = cache.debounce := by
  cases h <;> rfl

/-- An operation keeps a cache of versions one, the version of its disk joining them. -/
theorem known_perform {past : Set Disk} (hk : cache.Known past) (hd : m.disk ∈ past) :
    (perform m cache).2.Known past := by
  have hm := performed m cache
  generalize perform m cache = r at hm ⊢
  cases hm with
  | trusted _ hc => exact hk.keep (hk.find? (Option.filter_eq_some_iff.1 hc).1)
  | checked _ hc => exact (hc.kept hk hd).known
  | updated => exact hk.updateOptions _
  | cleared => exact fun x hx => by cases hx

/-! ## All moments -/

/-- The disks of these moments. -/
def disks (moments : List Moment) : Set Disk := {disk | ∃ m ∈ moments, m.disk = disk}

theorem disks_mono {moments moments' : List Moment} (h : moments ⊆ moments') : disks moments ⊆ disks moments' := by
  rintro _ ⟨m, hm, rfl⟩
  exact ⟨m, h hm, rfl⟩

theorem known_after {past : Set Disk} (o : Options) {moments : List Moment} (h : disks moments ⊆ past) :
    (after o moments).Known past := by
  induction moments with
  | nil => exact known_new past o
  | cons m earlier ih =>
    have hk : (after o earlier).Known past := ih fun _ hd => h (disks_mono (List.subset_cons_self m earlier) hd)
    exact known_perform hk (h ⟨m, List.mem_cons_self, rfl⟩)

theorem optionsAfter_of_path? (hp : m.operation.path? = some p) :
    optionsAfter o (m :: earlier) = optionsAfter o earlier := by
  rw [optionsAfter]
  cases ho : m.operation with
  | readCached | readFresh => rfl
  | updateOptions | clear => simp [ho, Operation.path?] at hp

/-- The debounce in force is the one that was set last. -/
theorem debounce_after (o : Options) (moments : List Moment) :
    (after o moments).debounce = (optionsAfter o moments).debounce := by
  induction moments with
  | nil => rfl
  | cons m earlier ih =>
    have hm := performed m (after o earlier)
    rw [after]
    generalize perform m (after o earlier) = r at hm ⊢
    cases hm with
    | trusted ho => rw [optionsAfter_of_path? (by rw [ho]; rfl)]; exact ih
    | checked hp hc => rw [optionsAfter_of_path? hp, hc.debounce]; exact ih
    | updated ho => simp [optionsAfter, ho, updateOptions]
    | cleared ho => simp [optionsAfter, ho, clear, ih]

/-! ## When a file was asked for -/

theorem lastAsked?_of_checked (hp : m.operation.path? = some p)
    (hc : Checked m.disk m.now p (after o earlier) (perform m (after o earlier))) :
    lastAsked? o p.components (m :: earlier) = some (m, p) := by
  have hasked : (perform m (after o earlier)).2.metadataReads ≠ (after o earlier).metadataReads := by
    rw [hc.metadataReads]; omega
  simp only [lastAsked?, hp, hasked, ne_eq, not_false_eq_true, and_self, if_true]

/-- Reads of other paths do not ask for this file. -/
theorem lastAsked?_of_ne (hp : ∀ p, m.operation.path? = some p → p.components ≠ key) :
    lastAsked? o key (m :: earlier) = lastAsked? o key earlier := by
  rw [lastAsked?]
  cases hm : m.operation.path? with
  | none => rfl
  | some p => simp only [hp p hm, false_and, if_false]

/-- A trusted entry does not ask for its file. -/
theorem lastAsked?_of_unasked (h : (perform m (after o earlier)).2.metadataReads = (after o earlier).metadataReads) :
    lastAsked? o key (m :: earlier) = lastAsked? o key earlier := by
  rw [lastAsked?]
  cases hm : m.operation.path? with
  | none => rfl
  | some p => simp only [h, ne_eq, not_true_eq_false, and_false, if_false]

theorem mem_of_lastAsked? {moments : List Moment} (h : lastAsked? o key moments = some (n, q)) :
    n ∈ moments ∧ n.operation.path? = some q ∧ q.components = key := by
  induction moments with
  | nil => cases h
  | cons m earlier ih =>
    rw [lastAsked?] at h
    cases hp : m.operation.path? with
    | none =>
      rw [hp] at h
      exact (ih h).imp_left (List.mem_cons_of_mem m)
    | some p =>
      rw [hp] at h
      dsimp only at h
      split at h
      · rename_i hkey
        cases h
        exact ⟨List.mem_cons_self, hp, hkey.1⟩
      · exact (ih h).imp_left (List.mem_cons_of_mem m)

/-- The last asking is among the later moments, or it is the last one of those before. -/
theorem lastAsked?_append (h : lastAsked? o key (later ++ before) = some (n, q)) :
    n ∈ later ∨ lastAsked? o key before = some (n, q) := by
  induction later with
  | nil => exact .inr h
  | cons m later ih =>
    rw [List.cons_append, lastAsked?] at h
    cases hp : m.operation.path? with
    | none =>
      rw [hp] at h
      exact (ih h).imp_left (List.mem_cons_of_mem m)
    | some p =>
      rw [hp] at h
      dsimp only at h
      split at h
      · cases h
        exact .inl List.mem_cons_self
      · exact (ih h).imp_left (List.mem_cons_of_mem m)

/-- Every entry holds the markers of its file as it was when its state was last asked for, and the time of that. -/
def Dated (o : Options) (moments : List Moment) : Prop :=
  ∀ x ∈ (after o moments).entries.entries, ∃ n q, lastAsked? o x.1 moments = some (n, q) ∧ n.now = x.2.checkedAt ∧
    n.disk.markers q = some x.2.markers

theorem dated_after (o : Options) {moments : List Moment} (ht : Disk.TellsVersions (disks moments)) :
    Dated o moments := by
  induction moments with
  | nil =>
    intro x hx
    cases hx
  | cons m earlier ih =>
    have hsub := disks_mono (List.subset_cons_self m earlier)
    have hd : Dated o earlier := ih (ht.mono hsub)
    have hk : (after o earlier).Known (disks (m :: earlier)) := known_after o hsub
    intro x hx
    have hm := performed m (after o earlier)
    rw [after] at hx
    generalize hr : perform m (after o earlier) = r at hm hx
    cases hm with
    | trusted _ hc =>
      rw [lastAsked?_of_unasked (by rw [hr]; rfl)]
      rcases Recency.mem_put hx with rfl | hx
      · exact hd _ (Recency.mem_of_find? (Option.filter_eq_some_iff.1 hc).1)
      · exact hd x hx
    | @checked p _ hp hc =>
      rcases hc.mem_cases hx with ⟨hkey, hnow, hms⟩ | ⟨hkey, hx⟩
      · refine ⟨m, p, ?_, hnow.symm, ?_⟩
        · rw [hkey, lastAsked?_of_checked hp (hr ▸ hc)]
        · rw [← hc.markers_eq hk ⟨m, List.mem_cons_self, rfl⟩ ht, hms]
      · rw [lastAsked?_of_ne fun p' hp' => by rw [hp] at hp'; cases hp'; exact hkey.symm]
        exact hd x hx
    | updated ho =>
      rw [lastAsked?_of_ne fun p hp => by simp [ho, Operation.path?] at hp]
      exact hd x (Recency.mem_resize hx)
    | cleared => cases hx

/-! ## How old an answer is -/

/-- A read that asks gives the markers of the file as it is. -/
theorem perform_of_checked (ht : Disk.TellsVersions (disks (m :: earlier)))
    (hc : Checked m.disk m.now p (after o earlier) (perform m (after o earlier))) :
    (perform m (after o earlier)).1 = m.disk.markers p :=
  hc.markers_eq (known_after o (disks_mono (List.subset_cons_self m earlier))) ⟨m, List.mem_cons_self, rfl⟩ ht

theorem checked_of_readFresh (h : m.operation = .readFresh p) (cache : MarkerCache) :
    Checked m.disk m.now p cache (perform m cache) := by
  unfold perform
  rw [h]
  exact checked_host ..

/-- A read without an answer has asked. -/
theorem checked_of_eq_none (hp : m.operation.path? = some p) (h : (perform m cache).1 = none) :
    Checked m.disk m.now p cache (perform m cache) := by
  have hm := performed m cache
  generalize perform m cache = r at h hm ⊢
  cases hm with
  | trusted => cases h
  | checked hq hc =>
    rw [hp] at hq
    cases hq
    exact hc
  | updated ho | cleared ho => simp [ho, Operation.path?] at hp

/-- The markers of a read are those of the file when its state was last asked for: now, or less than the debounce
ago. -/
theorem markers_lastAsked (hp : m.operation.path? = some p) (ht : Disk.TellsVersions (disks (m :: earlier)))
    (hms : (perform m (after o earlier)).1 = some ms) :
    ∃ n q, lastAsked? o p.components (m :: earlier) = some (n, q) ∧ n.disk.markers q = some ms ∧
      (n = m ∨ m.now - n.now < (optionsAfter o earlier).debounce) := by
  have hm := performed m (after o earlier)
  generalize hr : perform m (after o earlier) = r at hms hm
  cases hm with
  | @trusted p' e ho hc =>
    rw [ho] at hp
    cases hp
    cases hms
    obtain ⟨he, hlt⟩ := Option.filter_eq_some_iff.1 hc
    have hsub := disks_mono (List.subset_cons_self m earlier)
    obtain ⟨n, q, hlast, hnow, hmarkers⟩ :=
      dated_after o (ht.mono hsub) _ (Recency.mem_of_find? he)
    refine ⟨n, q, ?_, hmarkers, .inr ?_⟩
    · rw [lastAsked?_of_unasked (by rw [hr]; rfl)]
      exact hlast
    · rw [hnow, ← debounce_after]
      exact of_decide_eq_true hlt
  | checked hq hc =>
    rw [hp] at hq
    cases hq
    rw [← hr] at hc
    refine ⟨m, p, lastAsked?_of_checked hp hc, ?_, .inl rfl⟩
    rw [← perform_of_checked ht hc, hr, hms]
  | updated | cleared => cases hms

/-- After a read of the file without an answer, the markers are those of a later moment. -/
theorem lastAsked?_since_failure {f : Moment} {p' : Path} (ht : Disk.TellsVersions (disks (m :: later ++ f :: before)))
    (hf : f.operation.path? = some p') (hkey : p'.components = key) (hnone : (perform f (after o before)).1 = none)
    (hlast : lastAsked? o key (m :: later ++ f :: before) = some (n, q)) (hms : n.disk.markers q = some ms) :
    n ∈ m :: later := by
  rcases lastAsked?_append hlast with hn | hlast
  · exact hn
  · -- the failing read asked, and found no markers
    exfalso
    have hsub := disks_mono (List.subset_append_right (m :: later) (f :: before))
    have hc := checked_of_eq_none hf hnone
    rw [← hkey, lastAsked?_of_checked hf hc] at hlast
    cases hlast
    rw [perform_of_checked (ht.mono hsub) hc, hms] at hnone
    cases hnone

/-- However a cache is used while files change, when the clock never goes back and fingerprints tell versions apart: a
fresh read gives the markers in the bytes of the file as it is, if it is there and may be read. Any read gives those in
the bytes that the file had when its state was last asked for, now or less than the debounce in force ago; when a read
had no answer, that was after it. -/
theorem read_staleness (o : Options) (earlier : List Moment) (m : Moment) (p : Path)
    (hread : m.operation.path? = some p) (htells : Disk.TellsVersions (disks (m :: earlier)))
    (hclock : (m :: earlier).Pairwise fun later sooner => sooner.now ≤ later.now) :
    (m.operation = .readFresh p →
      ((perform m (after o earlier)).1.isSome = true ↔
        m.disk.isFile p = true ∧ ∃ bytes, m.disk.read p = .ok bytes) ∧
      ∀ ms, (perform m (after o earlier)).1 = some ms → ∃ bytes, m.disk.read p = .ok bytes ∧ ms = markersIn bytes) ∧
    ∀ ms, (perform m (after o earlier)).1 = some ms →
      ∃ n q bytes, lastAsked? o p.components (m :: earlier) = some (n, q) ∧ n.disk.isFile q = true ∧
        n.disk.read q = .ok bytes ∧ ms = markersIn bytes ∧
        n.now ≤ m.now ∧ (n.now = m.now ∨ m.now - n.now < (optionsAfter o earlier).debounce) ∧
        ∀ later f before p', earlier = later ++ f :: before → f.operation.path? = some p' →
          p'.components = p.components → (perform f (after o before)).1 = none → n ∈ m :: later := by
  refine ⟨fun hfresh => ?_, fun ms hms => ?_⟩
  · have hnow := perform_of_checked htells (checked_of_readFresh hfresh (after o earlier))
    rw [hnow]
    exact ⟨Disk.isSome_markers_iff, fun ms hms => (Disk.markers_eq_some_iff.1 hms).2⟩
  · obtain ⟨n, q, hlast, hmarkers, hwhen⟩ := markers_lastAsked hread htells hms
    obtain ⟨hfile, bytes, hbytes, hparsed⟩ := Disk.markers_eq_some_iff.1 hmarkers
    refine ⟨n, q, bytes, hlast, hfile, hbytes, hparsed, ?_, ?_, ?_⟩
    · rcases List.mem_cons.1 (mem_of_lastAsked? hlast).1 with rfl | hn
      · exact Nat.le_refl _
      · exact (List.pairwise_cons.1 hclock).1 n hn
    · exact hwhen.imp_left fun h => by rw [h]
    · rintro later f before p' rfl hf hkey hnone
      exact lastAsked?_since_failure htells hf hkey hnone hlast hmarkers

namespace Sample

/-- One file with a marker for this line of a template. -/
def oneFile (inode : Nat) (line : String) : Disk :=
  let file : RegularFile :=
    { identity := ⟨1, inode⟩, modified := ⟨0, 0⟩, bytes := Utf8.encode ("// line " ++ line ++ " \"/a.jsp\"\n") }
  ⟨.dir [("a", .file file)], [], ⟨1, 0⟩⟩

/-- The file is gone at 2 and there again at 3. -/
def moments : List Moment :=
  [⟨oneFile 1 "1", 3, .readCached ⟨"/a"⟩⟩, ⟨⟨.dir [], [], ⟨1, 0⟩⟩, 2, .readFresh ⟨"/a"⟩⟩,
    ⟨oneFile 1 "1", 0, .readFresh ⟨"/a"⟩⟩]

/-- The file was replaced before it is read at 9. -/
def late : Moment := ⟨oneFile 2 "2", 9, .readCached ⟨"/a/"⟩⟩

end Sample

theorem tellsVersions_sample : Disk.TellsVersions (disks (Sample.late :: Sample.moments)) :=
  Disk.tellsVersions_of_list Moment.disk (by decide +kernel)

/-- At 9 the markers are those of 3, which is less than 10 ago and after the file was gone. -/
theorem read_staleness_replaced :
    (perform Sample.late (after ⟨1, 10⟩ Sample.moments)).1 = some (markersIn (Utf8.encode "// line 1 \"/a.jsp\"\n")) ∧
    ∃ n q bytes, lastAsked? ⟨1, 10⟩ (Path.components ⟨"/a/"⟩) (Sample.late :: Sample.moments) = some (n, q) ∧
      n.disk.isFile q = true ∧ n.disk.read q = .ok bytes ∧
      markersIn (Utf8.encode "// line 1 \"/a.jsp\"\n") = markersIn bytes ∧
      n.now ≤ 9 ∧ (n.now = 9 ∨ 9 - n.now < 10) ∧ n ∈ Sample.late :: Sample.moments.take 1 := by
  have hgiven : (perform Sample.late (after ⟨1, 10⟩ Sample.moments)).1 =
      some (markersIn (Utf8.encode "// line 1 \"/a.jsp\"\n")) := by decide +kernel
  have hclock : (Sample.late :: Sample.moments).Pairwise fun later sooner => sooner.now ≤ later.now := by decide +kernel
  obtain ⟨n, q, bytes, hlast, hfile, hbytes, hms, hle, hwhen, hsince⟩ :=
    (read_staleness ⟨1, 10⟩ Sample.moments Sample.late ⟨"/a/"⟩ rfl tellsVersions_sample hclock).2 _ hgiven
  exact ⟨hgiven, n, q, bytes, hlast, hfile, hbytes, hms, hle, hwhen,
    hsince _ _ _ ⟨"/a"⟩ rfl rfl (by decide +kernel) (by decide +kernel)⟩

end TemplateDebug.MarkerCache
