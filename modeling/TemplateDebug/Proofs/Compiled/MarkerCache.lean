import TemplateDebug.Proofs.Disk.Answers
import TemplateDebug.Proofs.Entries
/-!
# Cached markers are those of some version

Every entry of the cache was parsed from a version of its file that some disk of the past showed, under the fingerprint
it keeps. So when fingerprints tell versions apart, a checked read gives the markers of the file as it is, and a
trusted one gives them too while the disk stays as it is. When they tell only different bytes apart, a checked read
gives the markers in the bytes of the file, and it may do so where the file can no longer be read.
-/

namespace TemplateDebug.MarkerCache

variable {past : Set Disk} {disk : Disk} {cache : MarkerCache} {p q : Path} {now : Nat}

/-- The entry was parsed from a version of a file of the past, under this key. -/
def ReadFrom (past : Set Disk) (key : List Path.Component) (e : Entry) : Prop :=
  ∃ disk ∈ past, ∃ p bytes, p.components = key ∧ disk.stat p = .ok (.regular e.fingerprint) ∧
    disk.read p = .ok bytes ∧ e.markers = markersIn bytes

/-- Every entry was parsed from a version of its file. -/
def Known (past : Set Disk) (cache : MarkerCache) : Prop :=
  ∀ x ∈ cache.entries.entries, ReadFrom past x.1 x.2

theorem known_new (past : Set Disk) (o : Options) : (new o).Known past := by
  intro x hx
  cases hx

theorem Known.updateOptions (h : cache.Known past) (o : Options) : (cache.updateOptions o).Known past :=
  fun x hx => h x (Recency.mem_resize hx)

theorem Known.keep {e : Entry} (h : cache.Known past) (he : ReadFrom past p.components e) :
    (cache.keep p e).Known past := by
  intro x hx
  rcases Recency.mem_put hx with rfl | hx
  · exact he
  · exact h x hx

theorem Known.drop (h : cache.Known past) : (cache.drop p).Known past :=
  fun x hx => h x (Recency.mem_erase hx)

theorem Known.find? {e : Entry} (h : cache.Known past) (he : cache.entries.find? p.components = some e) :
    ReadFrom past p.components e :=
  h (p.components, e) (Recency.mem_of_find? he)

/-! ## Checked reads -/

/-- The version that an entry was parsed from, by the path as it is spelled now. -/
theorem ReadFrom.by_path {e : Entry} (he : ReadFrom past p.components e) (hp : p.NamesFile) :
    ∃ old ∈ past, ∃ bytes, old.stat p = .ok (.regular e.fingerprint) ∧ old.read p = .ok bytes ∧
      e.markers = markersIn bytes := by
  obtain ⟨old, ho, q, bytes, hk, hq, hr, hm⟩ := he
  have hq' := Disk.namesFile_of_stat hq
  exact ⟨old, ho, bytes, (Disk.stat_congr hk.symm hp hq').trans hq, (Disk.read_congr hk.symm hp hq').trans hr, hm⟩

/-- An entry whose fingerprint describes the file as it is holds the markers of the file as it is, however the path was
spelled when the entry was made. -/
theorem ReadFrom.markers_eq {e : Entry} {f : Fingerprint} (he : ReadFrom past p.components e) (hd : disk ∈ past)
    (ht : Disk.TellsVersions past) (hs : disk.stat p = .ok (.regular f)) (hf : e.fingerprint.describes f = true) :
    disk.markers p = some e.markers := by
  obtain ⟨old, ho, bytes, hold, hread, hm⟩ := he.by_path (Disk.namesFile_of_stat hs)
  have hsame : old.read p = disk.read p := by
    by_contra hne
    exact (Fingerprint.describes_iff _ _).1 hf (ht old ho disk hd p _ f hold hs hne)
  simp only [Disk.markers, hs, ← hsame, hread, hm]

/-- Where different bytes come with different fingerprints, it holds those in the bytes of the file, which may be read
or not. -/
theorem ReadFrom.exists_contents {e : Entry} {f : Fingerprint} (he : ReadFrom past p.components e) (hd : disk ∈ past)
    (ht : Disk.TellsContents past) (hs : disk.stat p = .ok (.regular f)) (hf : e.fingerprint.describes f = true) :
    ∃ bytes, disk.contents? p = some bytes ∧ e.markers = markersIn bytes := by
  obtain ⟨old, ho, bytes, hold, hread, hm⟩ := he.by_path (Disk.namesFile_of_stat hs)
  have hsame : old.contents? p = disk.contents? p := by
    by_contra hne
    exact (Fingerprint.describes_iff _ _).1 hf (ht old ho disk hd p _ f hold hs hne)
  exact ⟨bytes, hsame.symm.trans (Disk.contents?_of_read hread), hm⟩

/-- What a read does to the cache besides its answer. -/
structure Kept (past : Set Disk) (cache cache' : MarkerCache) : Prop where
  known : cache'.Known past
  debounce : cache'.debounce = cache.debounce

/-- How a check ends: with an entry that still describes the file, with the file as it is read now, or with a path that
leads to no regular file or to one that may not be read. -/
inductive Checked (disk : Disk) (now : Nat) (p : Path) (cache : MarkerCache) :
    Option (Array Marker) × MarkerCache → Prop where
  | current {f : Fingerprint} {e : Entry} (stat : disk.stat p = .ok (.regular f))
      (found : cache.entries.find? p.components = some e) (describes : e.fingerprint.describes f = true) :
      Checked disk now p cache
        (some e.markers,
          { cache with metadataReads := cache.metadataReads + 1 }.keep p { e with checkedAt := now })
  | loaded {f : Fingerprint} {bytes : Bytes} (stat : disk.stat p = .ok (.regular f))
      (read : disk.read p = .ok bytes) :
      Checked disk now p cache
        (some (markersIn bytes),
          { cache with metadataReads := cache.metadataReads + 1 }.keep p ⟨f, markersIn bytes, now⟩)
  | dropped (unread : disk.markers p = none) :
      Checked disk now p cache (none, { cache with metadataReads := cache.metadataReads + 1 }.drop p)

theorem check_cases (disk : Disk) (now : Nat) (p : Path) (cache : MarkerCache) :
    Always (cache.check disk.tickingHost now p) (Checked disk now p cache) := by
  unfold check
  refine Disk.always_stat ?_
  cases hs : disk.stat p with
  | error e => exact Disk.always_log (.of_pure (.dropped (by simp [Disk.markers, hs])))
  | ok state =>
    cases state with
    | directory => exact .of_pure (.dropped (by simp [Disk.markers, hs]))
    | regular f =>
      dsimp only
      cases hc : current? { cache with metadataReads := cache.metadataReads + 1 } f p with
      | some e =>
        obtain ⟨he, hf⟩ := Option.filter_eq_some_iff.1 hc
        exact .of_pure (.current hs he hf)
      | none =>
        refine Disk.always_read ?_
        cases hb : disk.read p with
        | error e => exact Disk.always_log (.of_pure (.dropped (by simp [Disk.markers, hs, hb])))
        | ok bytes => exact Disk.always_log (.of_pure (.loaded hs hb))

/-- A check leaves a cache whose entries were parsed from versions of their files, this version joining them. -/
theorem Checked.kept {r : Option (Array Marker) × MarkerCache} (h : Checked disk now p cache r) (hk : cache.Known past)
    (hd : disk ∈ past) : Kept past cache r.2 := by
  cases h with
  | current _ he _ =>
    have hr : ReadFrom past p.components _ := hk.find? he
    exact ⟨Known.keep hk hr, rfl⟩
  | loaded hs hb => exact ⟨Known.keep hk ⟨disk, hd, p, _, rfl, hs, hb, rfl⟩, rfl⟩
  | dropped _ => exact ⟨hk.drop, rfl⟩

/-- When fingerprints tell versions apart, a check gives the markers of the file as it is. -/
theorem Checked.markers_eq {r : Option (Array Marker) × MarkerCache} (h : Checked disk now p cache r)
    (hk : cache.Known past) (hd : disk ∈ past) (ht : Disk.TellsVersions past) : r.1 = disk.markers p := by
  cases h with
  | current hs he hf => exact ((hk.find? he).markers_eq hd ht hs hf).symm
  | loaded hs hb => simp [Disk.markers, hs, hb]
  | dropped hnone => exact hnone.symm

/-- When fingerprints tell different bytes apart, a check gives the markers in the bytes of the file. -/
theorem Checked.yields {r : Option (Array Marker) × MarkerCache} (h : Checked disk now p cache r)
    (hk : cache.Known past) (hd : disk ∈ past) (ht : Disk.TellsContents past) : disk.Yields p r.1 := by
  cases h with
  | current hs he hf =>
    refine ⟨?_, by simp⟩
    rintro _ ⟨⟩
    exact (hk.find? he).exists_contents hd ht hs hf
  | loaded hs hb =>
    refine ⟨?_, by simp⟩
    rintro _ ⟨⟩
    exact ⟨_, Disk.contents?_of_read hb, rfl⟩
  | dropped hnone => exact ⟨by simp, fun _ => hnone⟩

theorem check_current (hk : cache.Known past) (hd : disk ∈ past) (ht : Disk.TellsVersions past) :
    Always (cache.check disk.tickingHost now p) fun r => r.1 = disk.markers p ∧ Kept past cache r.2 :=
  (check_cases disk now p cache).mono fun _ h => ⟨h.markers_eq hk hd ht, h.kept hk hd⟩

/-- A checked read gives the markers of the file as it is. -/
theorem readFresh_current (hk : cache.Known past) (hd : disk ∈ past) (ht : Disk.TellsVersions past) :
    Always (cache.readFresh disk.tickingHost p) fun r => r.1 = disk.markers p ∧ Kept past cache r.2 :=
  Disk.always_now fun _ => check_current hk hd ht

/-- What a checked read gives: where fingerprints tell different bytes apart, the markers in the bytes of the file, and
where they tell what reading gives, those of the file as it is. -/
structure ReadAs (past : Set Disk) (disk : Disk) (p : Path) (given : Option (Array Marker)) : Prop where
  yields : Disk.TellsContents past → disk.Yields p given
  eq_markers : Disk.TellsVersions past → given = disk.markers p

theorem readFresh_readAs (hk : cache.Known past) (hd : disk ∈ past) (p : Path) :
    Always (cache.readFresh disk.tickingHost p) fun r => ReadAs past disk p r.1 :=
  Disk.always_now fun now => (check_cases disk now p cache).mono fun _ h => ⟨h.yields hk hd, h.markers_eq hk hd⟩

/-- Whatever fingerprints tell, a cache of versions stays one. -/
theorem readFresh_kept (hk : cache.Known past) (hd : disk ∈ past) (p : Path) :
    Always (cache.readFresh disk.tickingHost p) fun r => Kept past cache r.2 :=
  Disk.always_now fun now => (check_cases disk now p cache).mono fun _ h => h.kept hk hd

/-! ## Trusted reads -/

/-- A trusted entry answers without a look at the disk. -/
theorem readCached_of_trusted {clock : Clock} {e : Entry} (h : cache.trusted? clock.head p = some e) :
    cache.readCached disk.tickingHost p clock = ((some e.markers, cache.keep p e), clock.tail) := by
  simp only [readCached, bind, StateT.bind, Disk.tickingHost, h]
  rfl

/-- Without an entry, a file that cannot be looked up has no markers. -/
theorem readCached_of_unreadable {e : FileError} (h : cache.entries.find? p.components = none)
    (hs : disk.stat p = .error e) : Always (cache.readCached disk.tickingHost p) fun r => r.1 = none := by
  refine Disk.always_now fun now => ?_
  have ht : cache.trusted? now p = none := by simp [trusted?, h]
  rw [ht]
  unfold check
  refine Disk.always_stat ?_
  rw [hs]
  exact Disk.always_log (.of_pure rfl)

/-- A trusted read of this path can only find what is there now: nothing is ever trusted, or the disk has always been
as it is and the spelling can name a file. -/
def Timely (past : Set Disk) (disk : Disk) (debounce : Nat) (p : Path) : Prop :=
  debounce = 0 ∨ past = {disk} ∧ p.NamesFile

/-- A trusted read gives the markers of the file as it is, when it can only find those; the cache stays known in any
case. -/
theorem readCached_current (hk : cache.Known past) (hd : disk ∈ past) (ht : Disk.TellsVersions past) :
    Always (cache.readCached disk.tickingHost p) fun r =>
      (Timely past disk cache.debounce p → r.1 = disk.markers p) ∧ Kept past cache r.2 := by
  refine Disk.always_now fun now => ?_
  cases hc : cache.trusted? now p with
  | none => exact (check_current hk hd ht).mono fun r h => ⟨fun _ => h.1, h.2⟩
  | some e =>
    obtain ⟨he, hlt⟩ := Option.filter_eq_some_iff.1 hc
    have hr : ReadFrom past p.components e := hk.find? he
    refine .of_pure ⟨?_, hk.keep hr, rfl⟩
    rintro (h0 | ⟨hpast, hp⟩)
    · simp [h0] at hlt
    · -- the version that the entry was parsed from is the present one, under some spelling
      obtain ⟨old, ho, q, bytes, hq, hs, hb, hm⟩ := hr
      rw [hpast] at ho
      cases ho
      rw [Disk.markers_congr hq.symm hp (Disk.namesFile_of_stat hs)]
      simp [Disk.markers, hs, hb, hm]

/-! ## Reads on a machine -/

/-- On a machine, checked reads keep what holds of a cache, and the markers they give are as `Gives` says. -/
def ReadsFresh (machine : Host (StateM Clock)) (Holds : MarkerCache → Prop) (Gives : Path → Array Marker → Prop) :
    Prop :=
  ∀ ⦃cache : MarkerCache⦄, Holds cache → ∀ p, Always (cache.readFresh machine p) fun r =>
    (∀ ms, r.1 = some ms → Gives p ms) ∧ Holds r.2

/-- Trusted reads do so, too. -/
structure Reads (machine : Host (StateM Clock)) (Holds : MarkerCache → Prop) (Gives : Path → Array Marker → Prop) :
    Prop where
  fresh : ReadsFresh machine Holds Gives
  cached : ∀ {cache : MarkerCache}, Holds cache → ∀ p, Always (cache.readCached machine p) fun r =>
    (∀ ms, r.1 = some ms → Gives p ms) ∧ Holds r.2

/-- On a disk, a checked read gives markers for a regular file only, whatever is in the cache. -/
theorem readsFresh_isFile (disk : Disk) :
    ReadsFresh disk.tickingHost (fun _ => True) fun p _ => disk.isFile p = true := by
  intro cache _ p
  refine Disk.always_now fun now => (check_cases disk now p cache).mono fun r h => ⟨fun ms hms => ?_, trivial⟩
  cases h with
  | current hs | loaded hs => exact Disk.isFile_eq_true_iff.2 ⟨_, hs⟩
  | dropped => cases hms

/-- On a disk, which joins those of the past, a cache of versions stays one. -/
theorem reads_known (hd : disk ∈ past) : Reads disk.tickingHost (Known past) fun _ _ => True where
  fresh _ hk p := (readFresh_kept hk hd p).mono fun _ h => ⟨fun _ _ => trivial, h.known⟩
  cached {cache} hk p := by
    refine Disk.always_now fun now => ?_
    cases hc : cache.trusted? now p with
    | none => exact (check_cases disk now p cache).mono fun _ h => ⟨fun _ _ => trivial, (h.kept hk hd).known⟩
    | some e => exact .of_pure ⟨fun _ _ => trivial, hk.keep (hk.find? (Option.filter_eq_some_iff.1 hc).1)⟩

variable {machines : Set (Host (StateM Clock))} {machine : Host (StateM Clock)} {ms : Array Marker}

/-- The markers are those of bytes that one of the machines gave for some spelling of the path. -/
def Given (machines : Set (Host (StateM Clock))) (p : Path) (ms : Array Marker) : Prop :=
  ∃ machine ∈ machines, ∃ (q : Path) (clock : Clock) (bytes : Bytes), q.components = p.components ∧
    (machine.read q clock).1 = .ok bytes ∧ ms = markersIn bytes

/-- Every entry holds markers that were given for its path. -/
def GivenBy (machines : Set (Host (StateM Clock))) (cache : MarkerCache) : Prop :=
  ∀ x ∈ cache.entries.entries, ∀ p : Path, p.components = x.1 → Given machines p x.2.markers

theorem Given.exists_parse (h : Given machines p ms) : ∃ text, ms = Marker.parse text := by
  obtain ⟨_, -, _, _, bytes, -, -, rfl⟩ := h
  exact ⟨_, rfl⟩

theorem givenBy_new (machines : Set (Host (StateM Clock))) (o : Options) : (new o).GivenBy machines :=
  fun x hx => by cases hx

theorem GivenBy.updateOptions (h : cache.GivenBy machines) (o : Options) : (cache.updateOptions o).GivenBy machines :=
  fun x hx => h x (Recency.mem_resize hx)

theorem GivenBy.drop (h : cache.GivenBy machines) : (cache.drop p).GivenBy machines :=
  fun x hx => h x (Recency.mem_erase hx)

theorem GivenBy.find? {e : Entry} (h : cache.GivenBy machines) (he : cache.entries.find? p.components = some e) :
    Given machines p e.markers :=
  h (p.components, e) (Recency.mem_of_find? he) p rfl

theorem GivenBy.keep {e : Entry} (h : cache.GivenBy machines) (he : Given machines p e.markers) :
    (cache.keep p e).GivenBy machines := by
  intro x hx q hq
  rcases Recency.mem_put hx with rfl | hx
  · obtain ⟨machine, hm, spelling, clock, bytes, hs, hb, hms⟩ := he
    exact ⟨machine, hm, spelling, clock, bytes, hs.trans hq.symm, hb, hms⟩
  · exact h x hx q hq

/-- How a check ends whatever the machine answers: with an entry that was there, with what the machine gave now, or
with none. -/
inductive Ended (machine : Host (StateM Clock)) (now : Nat) (p : Path) (cache : MarkerCache) :
    Option (Array Marker) × MarkerCache → Prop where
  | current {e : Entry} (found : cache.entries.find? p.components = some e) :
      Ended machine now p cache
        (some e.markers,
          { cache with metadataReads := cache.metadataReads + 1 }.keep p { e with checkedAt := now })
  | loaded {f : Fingerprint} {clock : Clock} {bytes : Bytes} (read : (machine.read p clock).1 = .ok bytes) :
      Ended machine now p cache
        (some (markersIn bytes),
          { cache with metadataReads := cache.metadataReads + 1 }.keep p ⟨f, markersIn bytes, now⟩)
  | dropped : Ended machine now p cache (none, { cache with metadataReads := cache.metadataReads + 1 }.drop p)

theorem check_ended (machine : Host (StateM Clock)) (now : Nat) (p : Path) (cache : MarkerCache) :
    Always (cache.check machine now p) (Ended machine now p cache) := by
  unfold check
  refine .any fun state => ?_
  match state with
  | .error e => exact .any fun _ => .of_pure .dropped
  | .ok .directory => exact .of_pure .dropped
  | .ok (.regular f) =>
    dsimp only
    cases hc : current? { cache with metadataReads := cache.metadataReads + 1 } f p with
    | some e => exact .of_pure (.current (Option.filter_eq_some_iff.1 hc).1)
    | none =>
      refine (Always.answer (machine.read p)).andThen ?_
      rintro (e | bytes) ⟨clock, hread⟩
      · exact .any fun _ => .of_pure .dropped
      · exact .any fun _ => .of_pure (.loaded hread)

theorem check_given (hm : machine ∈ machines) (hk : cache.GivenBy machines) (now : Nat) (p : Path) :
    Always (cache.check machine now p) fun r =>
      (∀ ms, r.1 = some ms → Given machines p ms) ∧ r.2.GivenBy machines := by
  -- a counted look at the state of the file leaves the entries as they are
  have hk' : GivenBy machines { cache with metadataReads := cache.metadataReads + 1 } := hk
  refine (check_ended machine now p cache).mono fun r hr => ?_
  cases hr with
  | current found =>
    have hgiven : Given machines p _ := hk.find? found
    refine ⟨?_, hk'.keep hgiven⟩
    rintro _ ⟨⟩
    exact hgiven
  | @loaded _ clock bytes read =>
    have hgiven : Given machines p (markersIn bytes) := ⟨machine, hm, p, clock, bytes, rfl, read, rfl⟩
    refine ⟨?_, hk'.keep hgiven⟩
    rintro _ ⟨⟩
    exact hgiven
  | dropped => exact ⟨by simp, hk'.drop⟩

/-- A checked read asks for the state of one file, however it ends. -/
theorem readFresh_metadataReads (machine : Host (StateM Clock)) (p : Path) (cache : MarkerCache) :
    Always (cache.readFresh machine p) fun r => r.2.metadataReads = cache.metadataReads + 1 :=
  .any fun now => (check_ended machine now p cache).mono fun _ hr => by cases hr <;> rfl

/-- Whatever the machines answer, the markers that are read are those of bytes that one of them gave. -/
theorem reads_given (hm : machine ∈ machines) : Reads machine (GivenBy machines) (Given machines) where
  fresh _ hk p := .any fun now => check_given hm hk now p
  cached {cache} hk p := by
    refine .any fun now => ?_
    cases hc : cache.trusted? now p with
    | none => exact check_given hm hk now p
    | some e =>
      obtain ⟨he, -⟩ := Option.filter_eq_some_iff.1 hc
      refine .of_pure ⟨?_, hk.keep (hk.find? he)⟩
      rintro _ ⟨⟩
      exact hk.find? he

end TemplateDebug.MarkerCache
