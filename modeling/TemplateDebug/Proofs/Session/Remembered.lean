import TemplateDebug.Disk.Edit
import TemplateDebug.Proofs.Cache.Recall
import TemplateDebug.Proofs.Compiled.Locator
import TemplateDebug.Proofs.Compiled.Staleness
import TemplateDebug.Proofs.Template.Resolver
/-!
# How old remembered answers can be

References are resolved and compiled sources are located at moments of a clock that never goes back, and files change
in between. A remembered answer was found by a search, or by a walk, less than its time to live ago and after the stores
were last reconfigured or cleared; that it was given in between makes it no younger. A compiled source that is given is
there at that moment. Equal paths share what is remembered of them, and have the same references. A walk reads through
the markers that are kept, so what it finds is what the disk answers only where fingerprints tell versions apart.
-/

namespace TemplateDebug.Lookups

/-- Where answers are looked for, and for how long they are good. -/
structure Reach where
  webRoots : List Path
  resolvedTtl : Nat
  workDirs : List Path
  limits : Compiled.Limits

/-- The file that a reference leads to. -/
def Reach.search (reach : Reach) (disk : Disk) (ref : String) : Option Path := disk.search reach.webRoots ref

/-- The compiled source of a template, under the references that the web roots give it. -/
def Reach.locate (reach : Reach) (disk : Disk) (template : Path) : Option Path :=
  disk.locate reach.workDirs reach.limits.maxScanFiles (Template.plausibleRefs template reach.webRoots)

/-- The remembered references, the remembered compiled sources, and the markers that walks read through. -/
structure Stores where
  resolver : Template.Resolver
  locator : Compiled.Locator
  markers : MarkerCache

def new (reach : Reach) (o : MarkerCache.Options) : Stores where
  resolver := .new reach.webRoots reach.resolvedTtl
  locator := .new reach.workDirs reach.limits
  markers := .new o

/-- What is done with the stores. -/
inductive Action where
  | resolve (ref : String)
  | locate (template : Path)
  | useMarkers (operation : MarkerCache.Operation)
  | reconfigure (reach : Reach)
  | clearResolver
  | clearLocator

/-- Remembered references stay. -/
def Action.keepsReferences : Action → Bool
  | reconfigure _ | clearResolver => false
  | _ => true

/-- Remembered compiled sources stay. -/
def Action.keepsTemplates : Action → Bool
  | reconfigure _ | clearLocator => false
  | _ => true

/-- An action, with the disk when it is done and the times that the clock shows from then on. -/
structure Moment where
  disk : Disk
  clock : Clock
  action : Action

/-- The time when the action begins. -/
def Moment.now (m : Moment) : Nat := m.clock.head

/-- What the disk of a moment answers for the reference that is asked for, whatever is remembered. -/
def Moment.sought (m : Moment) (reach : Reach) : Option Path :=
  match m.action with
  | .resolve ref => reach.search m.disk ref
  | _ => none

/-- The path that an action gives, and the stores after it. -/
def perform (m : Moment) (s : Stores) : Option Path × Stores :=
  match m.action with
  | .resolve ref =>
    let (found, resolver) := (s.resolver.resolve m.disk.tickingHost ref m.clock).1
    (found, { s with resolver })
  | .locate template =>
    let refs := Template.plausibleRefs template s.resolver.webRoots
    let (found, locator, markers) := (s.locator.find m.disk.tickingHost template refs s.markers m.clock).1
    (found, { s with locator, markers })
  | .useMarkers operation => (none, { s with markers := (MarkerCache.perform ⟨m.disk, m.now, operation⟩ s.markers).2 })
  | .reconfigure reach =>
    (none, { s with
      resolver := .new reach.webRoots reach.resolvedTtl
      locator := .new reach.workDirs reach.limits })
  | .clearResolver => (none, { s with resolver := s.resolver.clear })
  | .clearLocator => (none, { s with locator := s.locator.clear })

/-- The stores after these moments, the latest first. -/
def after (reach : Reach) (o : MarkerCache.Options) : List Moment → Stores
  | [] => new reach o
  | m :: earlier => (perform m (after reach o earlier)).2

/-- Where the stores look after these moments: where they were last told to. -/
def reachAfter (reach : Reach) : List Moment → Reach
  | [] => reach
  | m :: earlier => match m.action with
    | .reconfigure reach' => reach'
    | _ => reachAfter reach earlier

/-- References are searched for; an answer is good for its time to live. -/
def searches (reach : Reach) : Memo.Use Moment String where
  asks? m := match m.action with
    | .resolve ref => some ref
    | _ => none
  keeps m := m.action.keepsReferences
  now := Moment.now
  good earlier n m := m.now - n.now < (reachAfter reach earlier).resolvedTtl

/-- A moment with the path that is given then. -/
structure Call where
  moment : Moment
  given : Option Path

/-- What is given at these moments, the latest first. -/
def calls (reach : Reach) (o : MarkerCache.Options) : List Moment → List Call
  | [] => []
  | m :: earlier => ⟨m, (perform m (after reach o earlier)).1⟩ :: calls reach o earlier

/-- The work directories are walked for templates; an answer is good for its time to live, if the file it gives is
there. -/
def walks (reach : Reach) : Memo.Use Call (List Path.Component) where
  asks? call := match call.moment.action with
    | .locate template => some template.components
    | _ => none
  keeps call := call.moment.action.keepsTemplates
  now call := call.moment.now
  good earlier n call :=
    call.moment.now - n.moment.now < (reachAfter reach (earlier.map (·.moment))).limits.ttl &&
      n.given.all call.moment.disk.isFile

/-- The disks of these moments. -/
def disks (moments : List Moment) : Set Disk := {disk | ∃ m ∈ moments, m.disk = disk}

variable {reach : Reach} {o : MarkerCache.Options} {past : Set Disk} {earlier moments : List Moment} {m : Moment}
  {history : List Call} {s : Stores} {ref : String} {template : Path} {given : Option Path}

theorem map_moment_calls (reach : Reach) (o : MarkerCache.Options) (moments : List Moment) :
    (calls reach o moments).map (·.moment) = moments := by
  induction moments with
  | nil => rfl
  | cons m earlier ih => rw [calls, List.map_cons, ih]

/-- Equal paths have the same compiled source. -/
theorem Reach.locate_congr {p q : Path} (h : p.components = q.components) (reach : Reach) (disk : Disk) :
    reach.locate disk p = reach.locate disk q := by
  unfold Reach.locate
  rw [Template.plausibleRefs_congr h]

/-- A moment that asks for a reference searches for it. -/
theorem sought_of_searches (h : (searches reach).asks? m = some ref) (now : Reach) :
    m.sought now = now.search m.disk ref := by
  unfold Moment.sought
  simp only [searches] at h
  cases ha : m.action with
  | resolve ref' =>
    rw [ha] at h
    obtain rfl := Option.some.inj h
    rfl
  | locate | useMarkers | reconfigure | clearResolver | clearLocator => simp [ha] at h

/-! ## What is remembered -/

theorem reachAfter_of_keepsReferences (h : m.action.keepsReferences = true) :
    reachAfter reach (m :: earlier) = reachAfter reach earlier := by
  rw [reachAfter]
  cases ha : m.action with
  | reconfigure => simp [ha, Action.keepsReferences] at h
  | resolve | locate | useMarkers | clearResolver | clearLocator => rfl

theorem reachAfter_of_keepsTemplates (h : m.action.keepsTemplates = true) :
    reachAfter reach (m :: earlier) = reachAfter reach earlier := by
  rw [reachAfter]
  cases ha : m.action with
  | reconfigure => simp [ha, Action.keepsTemplates] at h
  | resolve | locate | useMarkers | clearResolver | clearLocator => rfl

/-- The resolver looks where it was last told to, and remembers what was found when it had to be found. -/
structure RemembersReferences (reach : Reach) (moments : List Moment) (r : Template.Resolver) : Prop where
  webRoots : r.webRoots = (reachAfter reach moments).webRoots
  ttl : r.ttl = (reachAfter reach moments).resolvedTtl
  recalls : (searches reach).Recalls (·.sought (reachAfter reach moments)) moments r.memo

/-- So does the locator, which remembers what was given when it had to walk, and markers are read through a cache of
versions. -/
structure Remembers (past : Set Disk) (reach : Reach) (history : List Call) (s : Stores) : Prop where
  references : RemembersReferences reach (history.map (·.moment)) s.resolver
  workDirs : s.locator.workDirs = (reachAfter reach (history.map (·.moment))).workDirs
  limits : s.locator.limits = (reachAfter reach (history.map (·.moment))).limits
  templates : (walks reach).Recalls Call.given history s.locator.memo
  markers : s.markers.Known past

theorem remembersReferences_new (reach : Reach) (o : MarkerCache.Options) :
    RemembersReferences reach [] (new reach o).resolver := ⟨rfl, rfl, Memo.Use.recalls_empty _ _⟩

theorem remembers_new (past : Set Disk) (reach : Reach) (o : MarkerCache.Options) :
    Remembers past reach [] (new reach o) :=
  ⟨remembersReferences_new reach o, rfl, rfl, Memo.Use.recalls_empty _ _, MarkerCache.known_new past o⟩

/-- What is still good for a reference is what its last search found. -/
theorem RemembersReferences.good_reference {r : Template.Resolver} (h : RemembersReferences reach earlier r)
    (m : Moment) (ref : String) :
    r.memo.fresh? r.ttl m.now ref =
      (((searches reach).foundAt? ref earlier).filter ((searches reach).good earlier · m)).map
        (·.sought (reachAfter reach earlier)) := by
  rw [h.recalls.fresh?_eq, h.ttl]
  rfl

/-- What is still good for a template is what was given at its last walk. -/
theorem Remembers.good_template (h : Remembers past reach history s) (m : Moment) (given : Option Path)
    (template : Path) :
    ((s.locator.memo.fresh? s.locator.limits.ttl m.now template.components).filter fun a => a.all m.disk.isFile) =
      (((walks reach).foundAt? template.components history).filter ((walks reach).good history · ⟨m, given⟩)).map
        (·.given) := by
  rw [h.templates.fresh?_eq, h.limits]
  cases (walks reach).foundAt? template.components history with
  | none => rfl
  | some n =>
    by_cases hn : m.now - n.moment.now < (reachAfter reach (history.map (·.moment))).limits.ttl
    · by_cases hall : n.given.all m.disk.isFile = true <;> simp [walks, Option.filter, hn, hall]
    · simp [walks, Option.filter, hn]

/-! ## References at one moment -/

/-- An action that leaves the resolver alone. -/
theorem RemembersReferences.not_asked {r : Template.Resolver} (h : RemembersReferences reach earlier r)
    (hkeeps : m.action.keepsReferences = true) (hasks : (searches reach).asks? m = none) :
    RemembersReferences reach (m :: earlier) r := by
  have hreach : reachAfter reach (m :: earlier) = reachAfter reach earlier := reachAfter_of_keepsReferences hkeeps
  have hrecalls := h.recalls.not_asked hkeeps hasks
  obtain ⟨hroots, httl, -⟩ := h
  rw [← hreach] at hroots httl hrecalls
  exact ⟨hroots, httl, hrecalls⟩

/-- A reference is resolved to what was found when it was last searched for, now or before. -/
theorem RemembersReferences.resolve (h : RemembersReferences reach earlier s.resolver) (ha : m.action = .resolve ref) :
    (∃ n, (searches reach).foundAt? ref (m :: earlier) = some n ∧
      (perform m s).1 = n.sought (reachAfter reach earlier)) ∧
    RemembersReferences reach (m :: earlier) (perform m s).2.resolver := by
  have hkeeps : m.action.keepsReferences = true := by rw [ha]; rfl
  have hasks : (searches reach).asks? m = some ref := by simp only [searches, ha]
  have hreach : reachAfter reach (m :: earlier) = reachAfter reach earlier := reachAfter_of_keepsReferences hkeeps
  have hperform : perform m s = ((s.resolver.resolve m.disk.tickingHost ref m.clock).1.1,
      { s with resolver := (s.resolver.resolve m.disk.tickingHost ref m.clock).1.2 }) := by rw [perform, ha]
  have hanswered := s.resolver.resolve_answered m.disk ref m.clock
  rw [show m.clock.head = m.now from rfl] at hanswered
  rw [hperform]
  generalize (s.resolver.resolve m.disk.tickingHost ref m.clock).1 = r at hanswered ⊢
  cases hanswered with
  | remembered hfresh =>
    rw [h.good_reference, Option.map_eq_some_iff] at hfresh
    obtain ⟨n, hgood, rfl⟩ := hfresh
    obtain ⟨hfound, hrecalls⟩ := h.recalls.reused hkeeps hasks hgood
    refine ⟨⟨n, hfound, rfl⟩, ?_, ?_, ?_⟩
    · rw [hreach, ← h.webRoots]
    · rw [hreach, ← h.ttl]
    · rw [hreach]
      exact hrecalls
  | searched hstale =>
    rw [h.good_reference, Option.map_eq_none_iff] at hstale
    have hsearch : m.disk.search s.resolver.webRoots ref = m.sought (reachAfter reach earlier) := by
      rw [Moment.sought, ha, h.webRoots]
      rfl
    obtain ⟨hfound, hrecalls⟩ := h.recalls.found hkeeps hasks hstale
    rw [hsearch]
    refine ⟨⟨m, hfound, rfl⟩, ?_, ?_, ?_⟩
    · rw [hreach, ← h.webRoots]
    · rw [hreach, ← h.ttl]
    · rw [hreach]
      exact hrecalls

/-- What is remembered of references stays so, whatever is done with the stores and whatever files do. -/
theorem RemembersReferences.perform (h : RemembersReferences reach earlier s.resolver) (m : Moment) :
    RemembersReferences reach (m :: earlier) (perform m s).2.resolver := by
  cases ha : m.action with
  | resolve ref => exact (h.resolve ha).2
  | locate | useMarkers | clearLocator =>
    rw [Lookups.perform, ha]
    exact h.not_asked (by rw [ha]; rfl) (by simp only [searches, ha])
  | reconfigure reach' =>
    have hreach : reachAfter reach (m :: earlier) = reach' := by rw [reachAfter, ha]
    rw [Lookups.perform, ha]
    refine ⟨?_, ?_, Memo.Use.recalls_dropped _ (by simp only [searches, ha, Action.keepsReferences])⟩
    · rw [hreach]
      rfl
    · rw [hreach]
      rfl
  | clearResolver =>
    have hreach : reachAfter reach (m :: earlier) = reachAfter reach earlier := by rw [reachAfter, ha]
    rw [Lookups.perform, ha]
    refine ⟨?_, ?_, Memo.Use.recalls_dropped _ (by simp only [searches, ha, Action.keepsReferences])⟩
    · rw [hreach, ← h.webRoots]
      rfl
    · rw [hreach, ← h.ttl]
      rfl

/-! ## Templates at one moment -/

/-- After an action that leaves the locator where to look. -/
theorem Remembers.of_keepsTemplates {s' : Stores} (h : Remembers past reach history s)
    (hkeeps : m.action.keepsTemplates = true)
    (hreferences : RemembersReferences reach (m :: history.map (·.moment)) s'.resolver)
    (hworkDirs : s'.locator.workDirs = s.locator.workDirs) (hlimits : s'.locator.limits = s.locator.limits)
    (htemplates : (walks reach).Recalls Call.given (⟨m, given⟩ :: history) s'.locator.memo)
    (hmarkers : s'.markers.Known past) : Remembers past reach (⟨m, given⟩ :: history) s' := by
  have hreach : reachAfter reach (m :: history.map (·.moment)) = reachAfter reach (history.map (·.moment)) :=
    reachAfter_of_keepsTemplates hkeeps
  rw [h.workDirs, ← hreach] at hworkDirs
  rw [h.limits, ← hreach] at hlimits
  exact ⟨hreferences, hworkDirs, hlimits, htemplates, hmarkers⟩

/-- For a template there is given what was given when it was last walked for, now or before; and a walk finds what the
disk answers where fingerprints tell versions apart. -/
theorem Remembers.locate (h : Remembers past reach history s) (ha : m.action = .locate template) (hd : m.disk ∈ past) :
    (∃ n, (walks reach).foundAt? template.components (⟨m, (perform m s).1⟩ :: history) = some n ∧
      (perform m s).1 = n.given) ∧
    Remembers past reach (⟨m, (perform m s).1⟩ :: history) (perform m s).2 ∧
    (((walks reach).foundAt? template.components history).filter
        ((walks reach).good history · ⟨m, (perform m s).1⟩) = none →
      Disk.TellsVersions past →
        (perform m s).1 = (reachAfter reach (history.map (·.moment))).locate m.disk template) := by
  have hkeeps : m.action.keepsTemplates = true := by rw [ha]; rfl
  have hkept : ∀ given, (walks reach).keeps ⟨m, given⟩ = true := fun _ => hkeeps
  have hasks : ∀ given, (walks reach).asks? ⟨m, given⟩ = some template.components := by
    simp only [walks, ha, implies_true]
  have hreferences := h.references.perform m
  have hanswered := Compiled.Locator.find_answered s.locator template
    (Template.plausibleRefs template s.resolver.webRoots) h.markers hd m.clock
  have hperform : perform m s =
      let r := (s.locator.find m.disk.tickingHost template (Template.plausibleRefs template s.resolver.webRoots)
        s.markers m.clock).1
      (r.1, { s with locator := r.2.1, markers := r.2.2 }) := by rw [perform, ha]
  rw [show m.clock.head = m.now from rfl] at hanswered
  rw [hperform] at hreferences ⊢
  generalize (s.locator.find m.disk.tickingHost template (Template.plausibleRefs template s.resolver.webRoots)
    s.markers m.clock).1 = r at hanswered hreferences ⊢
  cases hanswered with
  | @remembered answer _ hknown hfresh =>
    rw [h.good_template m answer, Option.map_eq_some_iff] at hfresh
    obtain ⟨n, hgood, hgiven⟩ := hfresh
    obtain ⟨hfound, htemplates⟩ := h.templates.reused (hkept answer) (hasks _) hgood
    refine ⟨⟨n, hfound, hgiven.symm⟩, h.of_keepsTemplates hkeeps hreferences rfl rfl htemplates hknown, fun hnone => ?_⟩
    cases hgood.symm.trans hnone
  | @walked found _ hknown hstale hcurrent =>
    rw [h.good_template m found, Option.map_eq_none_iff] at hstale
    obtain ⟨hfound, htemplates⟩ := h.templates.found (hkept found) (hasks _) hstale
    refine ⟨⟨_, hfound, rfl⟩, h.of_keepsTemplates hkeeps hreferences rfl rfl htemplates hknown, fun _ ht => ?_⟩
    rw [h.workDirs, h.limits, h.references.webRoots] at hcurrent
    exact hcurrent ht

/-- What the stores remember stays so, whatever is done with them. -/
theorem Remembers.perform (h : Remembers past reach history s) (hd : m.disk ∈ past) :
    Remembers past reach (⟨m, (perform m s).1⟩ :: history) (perform m s).2 := by
  have hreferences := h.references.perform m
  have hkept : m.action.keepsTemplates = true → (walks reach).keeps ⟨m, (Lookups.perform m s).1⟩ = true := id
  cases ha : m.action with
  | locate template => exact (h.locate ha hd).2.1
  | resolve | clearResolver =>
    have hkeeps : m.action.keepsTemplates = true := by rw [ha]; rfl
    have htemplates := h.templates.not_asked (hkept hkeeps) (by simp only [walks, ha])
    rw [Lookups.perform, ha] at hreferences htemplates ⊢
    exact h.of_keepsTemplates hkeeps hreferences rfl rfl htemplates h.markers
  | useMarkers operation =>
    have hkeeps : m.action.keepsTemplates = true := by rw [ha]; rfl
    have htemplates := h.templates.not_asked (hkept hkeeps) (by simp only [walks, ha])
    have hmarkers : (MarkerCache.perform ⟨m.disk, m.now, operation⟩ s.markers).2.Known past :=
      MarkerCache.known_perform h.markers hd
    rw [Lookups.perform, ha] at hreferences htemplates ⊢
    exact h.of_keepsTemplates hkeeps hreferences rfl rfl htemplates hmarkers
  | reconfigure reach' =>
    have hreach : reachAfter reach (m :: history.map (·.moment)) = reach' := by rw [reachAfter, ha]
    have hdropped : (walks reach).keeps ⟨m, (Lookups.perform m s).1⟩ = false := by
      simp only [walks, ha, Action.keepsTemplates]
    rw [Lookups.perform, ha] at hreferences hdropped ⊢
    refine ⟨hreferences, ?_, ?_, Memo.Use.recalls_dropped _ hdropped, h.markers⟩
    · rw [List.map_cons, hreach]
      rfl
    · rw [List.map_cons, hreach]
      rfl
  | clearLocator =>
    have hreach : reachAfter reach (m :: history.map (·.moment)) = reachAfter reach (history.map (·.moment)) := by
      rw [reachAfter, ha]
    have hdropped : (walks reach).keeps ⟨m, (Lookups.perform m s).1⟩ = false := by
      simp only [walks, ha, Action.keepsTemplates]
    rw [Lookups.perform, ha] at hreferences hdropped ⊢
    refine ⟨hreferences, ?_, ?_, Memo.Use.recalls_dropped _ hdropped, h.markers⟩
    · rw [List.map_cons, hreach, ← h.workDirs]
      rfl
    · rw [List.map_cons, hreach, ← h.limits]
      rfl

/-- A compiled source that is given is there. -/
theorem isFile_of_perform (ha : m.action = .locate template) (s : Stores) {p : Path} (hp : (perform m s).1 = some p) :
    m.disk.isFile p = true := by
  rw [perform, ha] at hp
  exact Compiled.Locator.find_isFile s.locator m.disk template _ s.markers m.clock p hp

/-! ## All moments -/

theorem disks_mono {moments moments' : List Moment} (h : moments ⊆ moments') : disks moments ⊆ disks moments' := by
  rintro _ ⟨m, hm, rfl⟩
  exact ⟨m, h hm, rfl⟩

theorem remembersReferences_after (reach : Reach) (o : MarkerCache.Options) (moments : List Moment) :
    RemembersReferences reach moments (after reach o moments).resolver := by
  induction moments with
  | nil => exact remembersReferences_new reach o
  | cons m earlier ih => exact ih.perform m

theorem remembers_after (reach : Reach) (o : MarkerCache.Options) (h : disks moments ⊆ past) :
    Remembers past reach (calls reach o moments) (after reach o moments) := by
  induction moments with
  | nil => exact remembers_new past reach o
  | cons m earlier ih =>
    have hearlier := ih fun _ hd => h (disks_mono (List.subset_cons_self m earlier) hd)
    exact hearlier.perform (h ⟨m, List.mem_cons_self, rfl⟩)

/-- Where fingerprints tell versions apart, what is given at a walk is what the disk answers then. -/
theorem finds_located (reach : Reach) (o : MarkerCache.Options) (h : disks moments ⊆ past)
    (ht : Disk.TellsVersions past) :
    (walks reach).Finds (fun key n => ∀ template : Path, template.components = key →
      n.given = (reachAfter reach moments).locate n.moment.disk template) (calls reach o moments) := by
  induction moments with
  | nil => exact Memo.Use.finds_nil _ _
  | cons m earlier ih =>
    have hearlier : disks earlier ⊆ past := fun _ hd => h (disks_mono (List.subset_cons_self m earlier) hd)
    cases hkeeps : m.action.keepsTemplates with
    | false => exact Memo.Use.finds_dropped _ hkeeps
    | true =>
      rw [reachAfter_of_keepsTemplates hkeeps]
      refine (ih hearlier).asked ?_
      intro key hasks hstale template hkey
      cases ha : m.action with
      | locate asked =>
        have hremembers := remembers_after reach o hearlier
        have hcomponents : asked.components = key := by simpa [walks, ha] using hasks
        rw [← hcomponents] at hstale
        have hgiven := (hremembers.locate ha (h ⟨m, List.mem_cons_self, rfl⟩)).2.2 hstale ht
        rw [map_moment_calls] at hgiven
        rw [hgiven]
        exact Reach.locate_congr (hcomponents.trans hkey.symm) _ _
      | resolve | useMarkers | reconfigure | clearResolver | clearLocator => simp [walks, ha] at hasks

/-- However references are resolved and compiled sources located while files change, when the clock never goes back: the
answer for a reference is that of a search of the disk of a moment, now or less than its time to live ago, since the
references were last dropped. The answer for a template was given at a walk at such a moment, since the templates were
last dropped; a file that it gives is there, and if fingerprints tell versions apart, it is what the disk of that moment
answers. These are the last moments at which the answer was not just given again. -/
theorem remembered_within_ttl (reach : Reach) (o : MarkerCache.Options) (earlier : List Moment) (m : Moment)
    (hclock : (m :: earlier).Pairwise fun later sooner => sooner.now ≤ later.now) :
    (∀ ref, m.action = .resolve ref →
      ∃ n ∈ (m :: earlier).takeWhile (·.action.keepsReferences),
        (searches reach).foundAt? ref (m :: earlier) = some n ∧ n.now ≤ m.now ∧
        (n = m ∨ m.now - n.now < (reachAfter reach earlier).resolvedTtl) ∧
        (perform m (after reach o earlier)).1 = (reachAfter reach earlier).search n.disk ref) ∧
    ∀ template, m.action = .locate template →
      ∃ n ∈ (calls reach o (m :: earlier)).takeWhile (·.moment.action.keepsTemplates),
        (walks reach).foundAt? template.components (calls reach o (m :: earlier)) = some n ∧ n.moment.now ≤ m.now ∧
        (n.moment = m ∨ m.now - n.moment.now < (reachAfter reach earlier).limits.ttl) ∧
        (perform m (after reach o earlier)).1 = n.given ∧
        (∀ p, n.given = some p → m.disk.isFile p = true) ∧
        (Disk.TellsVersions (disks (m :: earlier)) →
          n.given = (reachAfter reach earlier).locate n.moment.disk template) := by
  have hnow : ∀ n ∈ m :: earlier, n.now ≤ m.now := by
    intro n hn
    rcases List.mem_cons.1 hn with rfl | hn
    · exact Nat.le_refl _
    · exact (List.pairwise_cons.1 hclock).1 n hn
  constructor
  · intro ref ha
    obtain ⟨⟨n, hfound, hgiven⟩, -⟩ := (remembersReferences_after reach o earlier).resolve ha
    obtain ⟨hn, hasks⟩ := Memo.Use.mem_of_foundAt? hfound
    have hgood := Memo.Use.good_of_foundAt? (by simp only [searches, ha]) hfound
    refine ⟨n, hn, hfound, hnow n (List.takeWhile_subset _ hn), hgood.imp_right of_decide_eq_true, ?_⟩
    rw [hgiven, sought_of_searches hasks]
  · intro template ha
    have hremembers : Remembers (disks (m :: earlier)) reach (calls reach o earlier) (after reach o earlier) :=
      remembers_after reach o (disks_mono (List.subset_cons_self m earlier))
    obtain ⟨⟨n, hfound, hgiven⟩, -⟩ := hremembers.locate ha ⟨m, List.mem_cons_self, rfl⟩
    obtain ⟨hn, -⟩ := Memo.Use.mem_of_foundAt? hfound
    have hmoment : n.moment ∈ m :: earlier := by
      rw [← map_moment_calls reach o (m :: earlier)]
      exact List.mem_map_of_mem (List.takeWhile_subset _ hn)
    have hkeeps : m.action.keepsTemplates = true := by rw [ha]; rfl
    refine ⟨n, hn, hfound, hnow _ hmoment, ?_, hgiven, ?_, fun ht => ?_⟩
    · have hgood := Memo.Use.good_of_foundAt? (by simp only [walks, ha]) hfound
      refine hgood.imp (congrArg Call.moment) fun hgood => ?_
      have hyoung := of_decide_eq_true (Bool.and_eq_true_iff.1 hgood).1
      rwa [map_moment_calls] at hyoung
    · exact fun p hp => isFile_of_perform ha _ (hgiven.trans hp)
    · have hlocated := finds_located reach o (fun _ hd => hd) ht _ n hfound template rfl
      rwa [reachAfter_of_keepsTemplates hkeeps] at hlocated

namespace Sample

/-- Templates below `/w`, and compiled sources of `a.jsp` below `/c`, each with its inode. -/
def site (templates compiled : List (String × Nat)) : Disk where
  root := .dir [("c", .dir (compiled.map fun (name, inode) => (name, file inode))),
    ("w", .dir (templates.map fun (name, inode) => (name, file inode)))]
  workingDirectory := []
  nextIdentity := ⟨1, 4⟩
where
  file (inode : Nat) : Node :=
    .file { identity := ⟨1, inode⟩, modified := ⟨0, 0⟩, bytes := Utf8.encode "// line 1 \"/a.jsp\"\n" }

/-- Answers are good for 10. -/
def tenLong : Reach := ⟨[⟨"/w"⟩], 10, [⟨"/c"⟩], ⟨100, 10⟩⟩

/-- The template is located and its reference resolved at 0, and it is located again at 5, when there is a compiled
source that comes first. -/
def visits : List Moment :=
  [⟨site [("a.jsp", 1)] [("0_jsp.java", 3), ("a_jsp.java", 2)], Stream'.const 5, .locate ⟨"/w/a.jsp"⟩⟩,
    ⟨site [("a.jsp", 1)] [("a_jsp.java", 2)], Stream'.const 0, .resolve "/a.jsp"⟩,
    ⟨site [("a.jsp", 1)] [("a_jsp.java", 2)], Stream'.const 0, .locate ⟨"/w/a.jsp"⟩⟩]

/-- At 9 the template is gone. -/
def late (action : Action) : Moment := ⟨site [] [("0_jsp.java", 3), ("a_jsp.java", 2)], Stream'.const 9, action⟩

end Sample

/-- At 9 both answers are those of 0, though the template is gone and a walk would find the other source: the hit at 5
made the one no younger, and it is found under another spelling of the template. -/
theorem remembered_within_ttl_late :
    (perform (Sample.late (.resolve "/a.jsp")) (after Sample.tenLong ⟨8, 0⟩ Sample.visits)).1 = some ⟨"/w/a.jsp"⟩ ∧
    (perform (Sample.late (.locate ⟨"/w//a.jsp"⟩)) (after Sample.tenLong ⟨8, 0⟩ Sample.visits)).1 =
      some ⟨"/c/a_jsp.java"⟩ ∧
    (Sample.late (.locate ⟨"/w//a.jsp"⟩)).disk.isFile ⟨"/c/a_jsp.java"⟩ = true ∧
    (∃ n ∈ Sample.late (.resolve "/a.jsp") :: Sample.visits, n.now ≤ 9 ∧
      (n = Sample.late (.resolve "/a.jsp") ∨ 9 - n.now < 10) ∧
      Sample.tenLong.search n.disk "/a.jsp" = some ⟨"/w/a.jsp"⟩) ∧
    ∃ n, (walks Sample.tenLong).foundAt? (Path.components ⟨"/w//a.jsp"⟩)
        (calls Sample.tenLong ⟨8, 0⟩ (Sample.late (.locate ⟨"/w//a.jsp"⟩) :: Sample.visits)) = some n ∧
      n.moment.now = 0 ∧ n.given = some ⟨"/c/a_jsp.java"⟩ ∧
      Sample.tenLong.locate n.moment.disk ⟨"/w//a.jsp"⟩ = some ⟨"/c/a_jsp.java"⟩ := by
  have hresolved : (perform (Sample.late (.resolve "/a.jsp")) (after Sample.tenLong ⟨8, 0⟩ Sample.visits)).1 =
      some ⟨"/w/a.jsp"⟩ := by decide +kernel
  have hlocated : (perform (Sample.late (.locate ⟨"/w//a.jsp"⟩)) (after Sample.tenLong ⟨8, 0⟩ Sample.visits)).1 =
      some ⟨"/c/a_jsp.java"⟩ := by decide +kernel
  have hwhen : ((walks Sample.tenLong).foundAt? (Path.components ⟨"/w//a.jsp"⟩)
      (calls Sample.tenLong ⟨8, 0⟩ (Sample.late (.locate ⟨"/w//a.jsp"⟩) :: Sample.visits))).map (·.moment.now) =
        some 0 := by decide +kernel
  obtain ⟨n, hn, -, hle, hage, hsearch⟩ := (remembered_within_ttl Sample.tenLong ⟨8, 0⟩ Sample.visits
    (Sample.late (.resolve "/a.jsp")) (by decide +kernel)).1 _ rfl
  obtain ⟨k, -, hfound, -, -, hgiven, hthere, hwalk⟩ := (remembered_within_ttl Sample.tenLong ⟨8, 0⟩ Sample.visits
    (Sample.late (.locate ⟨"/w//a.jsp"⟩)) (by decide +kernel)).2 _ rfl
  rw [hfound] at hwhen
  have hk : k.given = some ⟨"/c/a_jsp.java"⟩ := hgiven.symm.trans hlocated
  have hlocate := hwalk (Disk.tellsVersions_of_list Moment.disk (by decide +kernel))
  exact ⟨hresolved, hlocated, hthere _ hk, ⟨n, List.takeWhile_subset _ hn, hle, hage, hsearch.symm.trans hresolved⟩,
    k, hfound, Option.some.inj hwhen, hk, hlocate.symm.trans hk⟩

namespace Sample

/-- The template is located at 0. -/
def once : Moment := ⟨site [] [("a_jsp.java", 2)], Stream'.const 0, .locate ⟨"/w/a.jsp"⟩⟩

/-- At 20 the compiled source is there, but may no longer be read. -/
def onceRefused : Moment :=
  ⟨(site [] [("a_jsp.java", 2)]).permit ⟨"/c/a_jsp.java"⟩ false, Stream'.const 20, .locate ⟨"/w/a.jsp"⟩⟩

end Sample

/-- Where only different bytes come with different fingerprints, a walk may find what no walk of a disk without memory
finds: a compiled source that can no longer be read, through the markers that are kept of it. -/
theorem located_not_always_within_ttl :
    ¬ ∀ (reach : Reach) (o : MarkerCache.Options) (earlier : List Moment) (m : Moment) (template : Path),
      Disk.TellsContents (disks (m :: earlier)) →
      ((m :: earlier).Pairwise fun later sooner => sooner.now ≤ later.now) → m.action = .locate template →
      ∃ n ∈ m :: earlier, (n = m ∨ m.now - n.now < (reachAfter reach earlier).limits.ttl) ∧
        (perform m (after reach o earlier)).1 = (reachAfter reach earlier).locate n.disk template := by
  intro h
  obtain ⟨n, hn, hage, hlocate⟩ := h Sample.tenLong ⟨8, 0⟩ [Sample.once] Sample.onceRefused ⟨"/w/a.jsp"⟩
    (Disk.tellsContents_of_list Moment.disk (by decide +kernel)) (by decide +kernel) rfl
  have hlocated : (perform Sample.onceRefused (after Sample.tenLong ⟨8, 0⟩ [Sample.once])).1 =
      some ⟨"/c/a_jsp.java"⟩ := by decide +kernel
  have hwalk : Sample.tenLong.locate Sample.onceRefused.disk ⟨"/w/a.jsp"⟩ = none := by decide +kernel
  rcases List.mem_cons.1 hn with rfl | hn
  · cases hlocated.symm.trans (hlocate.trans hwalk)
  · -- the moment of the first walk is too long ago
    obtain rfl := List.mem_singleton.1 hn
    rcases hage with heq | hage
    · cases congrArg Moment.now heq
    · exact absurd hage (by decide)

end TemplateDebug.Lookups
