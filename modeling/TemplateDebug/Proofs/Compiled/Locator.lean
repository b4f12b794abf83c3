import TemplateDebug.Proofs.Compiled.MarkerCache
/-!
# Remembered compiled sources

A walk reads each file afresh, so it finds what the disk answers, whatever the cache of markers holds and however few
entries it keeps. What a locator remembers is good while the disk stays as it is; one that remembers for no time at all
always walks.
-/

namespace TemplateDebug.Compiled.Locator

variable {past : Set Disk} {disk : Disk} {cache : MarkerCache} {l : Locator} {refs : List String} {template : Path}

/-- Nothing is remembered, or what is remembered is what the disk answers, where `refsOf` gives the references of a
template. -/
def Current (disk : Disk) (refsOf : Path → List String) (l : Locator) : Prop :=
  l.limits.ttl = 0 ∨ ∀ x ∈ l.memo.entries, ∀ template : Path, template.components = x.1 →
    x.2.value = disk.locate l.workDirs l.limits.maxScanFiles (refsOf template)

theorem current_new (disk : Disk) (refsOf : Path → List String) (workDirs : List Path) (limits : Limits) :
    (new workDirs limits).Current disk refsOf :=
  .inr fun x hx => by cases hx

/-- What a question does to the locator and to the cache besides the answer. -/
structure Kept (past : Set Disk) (disk : Disk) (refsOf : Path → List String) (l : Locator) (cache : MarkerCache)
    (l' : Locator) (cache' : MarkerCache) : Prop where
  current : l'.Current disk refsOf
  workDirs : l'.workDirs = l.workDirs
  limits : l'.limits = l.limits
  cache : MarkerCache.Kept past cache cache'

/-! ## On any machine -/

section
variable {machine : Host (StateM Clock)} {Holds : MarkerCache → Prop} {Gives : Path → Array Marker → Prop}

/-- Every file that is remembered has the path of a compiled source. -/
def Located (l : Locator) : Prop :=
  ∀ x ∈ l.memo.entries, ∀ p, x.2.value = some p → Source.isCompiled p.text = true

theorem located_new (workDirs : List Path) (limits : Limits) : (new workDirs limits).Located :=
  fun x hx => by cases hx

/-- What a walk finds has the path of a compiled source, and markers that were given for it. -/
theorem firstOf_reads (h : MarkerCache.ReadsFresh machine Holds Gives) (limit : Nat) (files : List Path) :
    ∀ (remaining : Nat) (cache : MarkerCache), Holds cache →
      Always (firstOf machine limit refs remaining cache files) fun r =>
        (∀ p, r.1 = some p → Source.isCompiled p.text = true ∧ ∃ ms, Gives p ms) ∧ Holds r.2 := by
  induction files with
  | nil =>
    intro remaining cache hc
    rw [firstOf]
    exact .of_pure ⟨by simp, hc⟩
  | cons p files ih =>
    intro remaining cache hc
    cases remaining with
    | zero => exact .any fun _ => .of_pure ⟨by simp, hc⟩
    | succ remaining =>
      rw [firstOf]
      cases hp : Source.isCompiled p.text with
      | false => simpa using ih remaining cache hc
      | true =>
        refine (h hc p).andThen ?_
        rintro ⟨found, cache'⟩ ⟨hgives, hc'⟩
        dsimp only
        split
        · rename_i hnamed
          obtain ⟨ms, hms, -⟩ := (Option.any_eq_true _ _).1 hnamed
          refine .any fun _ => .of_pure ⟨?_, hc'⟩
          rintro _ ⟨⟩
          exact ⟨hp, ms, hgives ms hms⟩
        · exact ih remaining cache' hc'

theorem scan_reads (h : MarkerCache.ReadsFresh machine Holds Gives) (hc : Holds cache) :
    Always (l.scan machine refs cache) fun r =>
      (∀ p, r.1 = some p → Source.isCompiled p.text = true ∧ ∃ ms, Gives p ms) ∧ Holds r.2 := by
  unfold scan
  split
  · exact .of_pure ⟨by simp, hc⟩
  · exact .any fun files => firstOf_reads h _ files _ cache hc

theorem known?_located (hl : l.Located) (now : Nat) (template : Path) :
    Always (l.known? machine now template) fun r =>
      ∀ p, r = some (some p) → Source.isCompiled p.text = true := by
  unfold known?
  cases hf : l.memo.fresh? l.limits.ttl now template.components with
  | none => exact .of_pure (by simp)
  | some answer =>
    obtain ⟨t, hm, -⟩ := Memo.mem_of_fresh? hf
    cases answer with
    | none => exact .of_pure (by simp)
    | some p =>
      have hp : Source.isCompiled p.text = true := hl _ hm p rfl
      refine .any fun there => ?_
      cases there with
      | true =>
        refine .of_pure ?_
        rintro _ ⟨⟩
        exact hp
      | false => exact .of_pure (by simp)

/-- What is located on a machine has the path of a compiled source, however long answers are good. -/
theorem find_located (h : MarkerCache.Reads machine Holds Gives) (hl : l.Located) (hc : Holds cache) :
    Always (l.find machine template refs cache) fun r =>
      (∀ p, r.1 = some p → Source.isCompiled p.text = true) ∧ r.2.1.Located ∧ Holds r.2.2 := by
  refine .any fun now => (known?_located hl now template).andThen fun known hknown => ?_
  cases known with
  | some answer =>
    refine .of_pure ⟨?_, hl, hc⟩
    rintro p rfl
    exact hknown p rfl
  | none =>
    refine (scan_reads h.fresh hc).andThen ?_
    rintro ⟨found, cache'⟩ ⟨hfound, hc'⟩
    have hcompiled : ∀ p, found = some p → Source.isCompiled p.text = true := fun p hp => (hfound p hp).1
    refine .of_pure ⟨hcompiled, ?_, hc'⟩
    intro x hx p hp
    rcases Memo.mem_record hx with rfl | hx
    · exact hcompiled p hp
    · exact hl x hx p hp

end

/-! ## Walking -/

/-- The files visited are read afresh, one after the other. -/
theorem firstOf_current (hd : disk ∈ past) (ht : Disk.TellsVersions past) (limit : Nat) (files : List Path) :
    ∀ (remaining : Nat) (cache : MarkerCache), cache.Known past →
      Always (firstOf disk.tickingHost limit refs remaining cache files) fun r =>
        r.1 = (files.take remaining).find? (fun p => Source.isCompiled p.text && (disk.markers p).any (names refs)) ∧
          MarkerCache.Kept past cache r.2 := by
  -- the next file is read with whatever entries the cache has left, so the induction is for any known cache
  induction files with
  | nil =>
    intro remaining cache hk
    rw [firstOf]
    exact .of_pure ⟨by simp, hk, rfl⟩
  | cons p files ih =>
    intro remaining cache hk
    cases remaining with
    | zero => exact Disk.always_log (.of_pure ⟨by simp, hk, rfl⟩)
    | succ remaining =>
      rw [firstOf]
      cases hc : Source.isCompiled p.text with
      | false => simpa [hc] using ih remaining cache hk
      | true =>
        refine (MarkerCache.readFresh_current hk hd ht).andThen ?_
        rintro ⟨_, cache'⟩ ⟨rfl, hkept⟩
        dsimp only
        cases hm : (disk.markers p).any (names refs) with
        | true => exact Disk.always_log (.of_pure ⟨by simp [hc, hm], hkept⟩)
        | false =>
          refine (ih remaining cache' hkept.known).mono ?_
          rintro r ⟨hr, hkept'⟩
          exact ⟨by simp [hr, hm], hkept'.known, hkept'.debounce.trans hkept.debounce⟩

theorem filesBelow_eq (disk : Disk) (dirs : List Path) :
    Always (filesBelow disk.tickingHost dirs) fun files => files = dirs.flatMap disk.filesBelow := by
  induction dirs with
  | nil => exact .of_pure rfl
  | cons dir dirs ih =>
    refine Disk.always_filesBelow (ih.andThen ?_)
    rintro _ rfl
    exact .of_pure (by simp)

theorem scan_current (hk : cache.Known past) (hd : disk ∈ past) (ht : Disk.TellsVersions past) :
    Always (l.scan disk.tickingHost refs cache) fun r =>
      r.1 = disk.locate l.workDirs l.limits.maxScanFiles refs ∧ MarkerCache.Kept past cache r.2 := by
  unfold scan Disk.locate
  split
  · exact .of_pure ⟨rfl, hk, rfl⟩
  · refine (filesBelow_eq disk l.workDirs).andThen ?_
    rintro _ rfl
    exact firstOf_current hd ht _ _ _ cache hk

/-- A walk leaves a cache of versions, and where fingerprints tell these apart, it finds what the disk answers. -/
theorem scan_walked (hk : cache.Known past) (hd : disk ∈ past) :
    Always (l.scan disk.tickingHost refs cache) fun r =>
      r.2.Known past ∧ (Disk.TellsVersions past → r.1 = disk.locate l.workDirs l.limits.maxScanFiles refs) := by
  intro clock
  exact ⟨(scan_reads (MarkerCache.reads_known hd).fresh hk clock).2, fun ht => (scan_current hk hd ht clock).1⟩

/-! ## Remembering -/

/-- A remembered answer is that of the disk; the file it gives is there, so it is not walked for again. -/
theorem known?_current {refsOf : Path → List String} (h : l.Current disk refsOf) (now : Nat) (template : Path) :
    Always (l.known? disk.tickingHost now template) fun r =>
      ∀ answer, r = some answer → answer = disk.locate l.workDirs l.limits.maxScanFiles (refsOf template) := by
  unfold known?
  cases hf : l.memo.fresh? l.limits.ttl now template.components with
  | none => exact .of_pure (by simp)
  | some answer =>
    obtain ⟨t, hm, hlt⟩ := Memo.mem_of_fresh? hf
    have ha : answer = disk.locate l.workDirs l.limits.maxScanFiles (refsOf template) := by
      rcases h with h0 | h
      · omega
      · exact h _ hm template rfl
    cases answer with
    | none =>
      refine .of_pure ?_
      rintro _ ⟨⟩
      exact ha
    | some p =>
      refine (disk.always_isFile p).andThen ?_
      rintro _ rfl
      split
      · refine .of_pure ?_
        rintro _ ⟨⟩
        exact ha
      · exact .of_pure (by simp)

/-- A remembered answer is still good when it is young enough and the file it gives, if any, is there. -/
theorem known?_eq (l : Locator) (disk : Disk) (now : Nat) (template : Path) :
    Always (l.known? disk.tickingHost now template) fun r =>
      r = (l.memo.fresh? l.limits.ttl now template.components).filter fun answer => answer.all disk.isFile := by
  unfold known?
  cases l.memo.fresh? l.limits.ttl now template.components with
  | none => exact .of_pure rfl
  | some answer =>
    cases answer with
    | none => exact .of_pure rfl
    | some p =>
      refine (disk.always_isFile p).andThen ?_
      rintro _ rfl
      cases hp : disk.isFile p with
      | true => exact .of_pure (by simp [Option.filter, hp])
      | false => exact .of_pure (by simp [Option.filter, hp])

/-- What is located on a disk is there, whatever is in the cache of markers. -/
theorem find_isFile (l : Locator) (disk : Disk) (template : Path) (refs : List String) (cache : MarkerCache) :
    Always (l.find disk.tickingHost template refs cache) fun r => ∀ p, r.1 = some p → disk.isFile p = true := by
  refine Disk.always_now fun now => (known?_eq l disk now template).andThen fun known hknown => ?_
  cases known with
  | some answer =>
    obtain ⟨-, hthere⟩ := Option.filter_eq_some_iff.1 hknown.symm
    exact .of_pure ((Option.all_eq_true _ _).1 hthere)
  | none =>
    refine (scan_reads (MarkerCache.readsFresh_isFile disk) trivial).andThen ?_
    rintro ⟨found, cache'⟩ ⟨hfound, -⟩
    refine .of_pure fun p hp => ?_
    obtain ⟨-, -, hfile⟩ := hfound p hp
    exact hfile

/-- What a question does on a disk: an answer that is still good is given as it is, any other is walked for and recorded
at the time of the question. -/
inductive Answered (disk : Disk) (now : Nat) (template : Path) (refs : List String) (l : Locator) (past : Set Disk) :
    Option Path × Locator × MarkerCache → Prop where
  | remembered {answer : Option Path} {cache' : MarkerCache} (known : cache'.Known past)
      (fresh : ((l.memo.fresh? l.limits.ttl now template.components).filter fun a => a.all disk.isFile) = some answer) :
      Answered disk now template refs l past (answer, l, cache')
  | walked {found : Option Path} {cache' : MarkerCache} (known : cache'.Known past)
      (stale : ((l.memo.fresh? l.limits.ttl now template.components).filter fun a => a.all disk.isFile) = none)
      (current : Disk.TellsVersions past → found = disk.locate l.workDirs l.limits.maxScanFiles refs) :
      Answered disk now template refs l past
        (found, { l with memo := l.memo.record now template.components found }, cache')

theorem find_answered (l : Locator) (template : Path) (refs : List String) (hk : cache.Known past) (hd : disk ∈ past)
    (clock : Clock) :
    Answered disk clock.head template refs l past (l.find disk.tickingHost template refs cache clock).1 := by
  refine Disk.at_now (R := fun now => Answered disk now template refs l past)
    (fun now => (known?_eq l disk now template).andThen fun known hknown => ?_) clock
  cases known with
  | some answer => exact .of_pure (.remembered hk hknown.symm)
  | none =>
    refine (scan_walked hk hd).andThen ?_
    rintro ⟨found, cache'⟩ ⟨hk', hfound⟩
    exact .of_pure (.walked hk' hknown.symm hfound)

/-- The answer of the locator is that of the disk, for references that equal templates share. -/
theorem find_current {refsOf : Path → List String} (hl : l.Current disk refsOf) (hk : cache.Known past)
    (hd : disk ∈ past) (ht : Disk.TellsVersions past)
    (hr : ∀ p q : Path, p.components = q.components → refsOf p = refsOf q) :
    Always (l.find disk.tickingHost template (refsOf template) cache) fun r =>
      r.1 = disk.locate l.workDirs l.limits.maxScanFiles (refsOf template) ∧
        Kept past disk refsOf l cache r.2.1 r.2.2 := by
  refine Disk.always_now fun now => (known?_current hl now template).andThen fun known hknown => ?_
  cases known with
  | some answer => exact .of_pure ⟨hknown answer rfl, hl, rfl, rfl, hk, rfl⟩
  | none =>
    refine (scan_current (l := l) hk hd ht).andThen ?_
    rintro ⟨_, cache'⟩ ⟨rfl, hkept⟩
    refine .of_pure ⟨rfl, ?_, rfl, rfl, hkept⟩
    rcases hl with h0 | hl
    · exact .inl h0
    · -- the new answer is recorded for every spelling of the template
      refine .inr fun x hx q hq => ?_
      rcases Memo.mem_record hx with rfl | hx
      · rw [hr q template hq]
      · exact hl x hx q hq

end TemplateDebug.Compiled.Locator
