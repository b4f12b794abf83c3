import Mathlib.Data.Set.Insert
import TemplateDebug.Proofs.Compiled.Locator
import TemplateDebug.Proofs.Compiled.Machine
import TemplateDebug.Proofs.Disk.Listing
/-!
# What a walk finds

A walk finds the first compiled source of a template among as many files as it visits, whatever the cache of markers
holds and however few entries it keeps. It reads none of the other files, and each of these at most once.
-/

namespace TemplateDebug

/-- The machine, with the files that are read from it written down, the latest last. -/
def Host.noting (machine : Host Id) : Host (StateM (List Path)) where
  now := pure (Id.run machine.now)
  stat p := pure (Id.run (machine.stat p))
  read p := do
    modify (· ++ [p])
    pure (Id.run (machine.read p))
  filesBelow p := pure (Id.run (machine.filesBelow p))
  log _ := pure ()

/-- The result and the files that were read for it satisfy `P`. -/
def Noted {α : Type} (x : StateM (List Path) α) (P : α → List Path → Prop) : Prop :=
  ∀ noted, ∃ new, (x noted).2 = noted ++ new ∧ P (x noted).1 new

namespace Noted

variable {α β : Type} {x : StateM (List Path) α} {f : α → StateM (List Path) β} {P : α → List Path → Prop}
  {R : β → List Path → Prop}

theorem of_pure {a : α} (h : P a []) : Noted (pure a) P := fun noted => ⟨[], (List.append_nil noted).symm, h⟩

/-- The rule for a step and the rest, which reads more. -/
theorem andThen (h : Noted x P) (hf : ∀ a new, P a new → Noted (f a) fun b more => R b (new ++ more)) :
    Noted (x >>= f) R := by
  intro noted
  obtain ⟨new, hnew, hp⟩ := h noted
  obtain ⟨more, hmore, hr⟩ := hf _ _ hp (x noted).2
  refine ⟨new ++ more, ?_, hr⟩
  rw [← List.append_assoc, ← hnew]
  exact hmore

end Noted

namespace MarkerCache

variable {machine : Host Id} {past : Set (Host Id)} {cache : MarkerCache}

/-- A read gives what it gives on the machine, and reads no other file. -/
theorem readFresh_noting (machine : Host Id) (p : Path) (cache : MarkerCache) :
    Noted (cache.readFresh machine.noting p) fun r new => r = Id.run (cache.readFresh machine p) ∧ new.Sublist [p] := by
  intro noted
  unfold readFresh check load
  simp only [Host.noting, Id.run, bind, pure, StateT.bind, stateM_pure]
  cases (machine.stat p : Except FileError FileState) with
  | error e => exact ⟨[], (List.append_nil _).symm, rfl, List.nil_sublist _⟩
  | ok state =>
    cases state with
    | directory => exact ⟨[], (List.append_nil _).symm, rfl, List.nil_sublist _⟩
    | regular f =>
      dsimp only
      cases current? { cache with metadataReads := cache.metadataReads + 1 } f p with
      | some e => exact ⟨[], (List.append_nil _).symm, rfl, List.nil_sublist _⟩
      | none =>
        dsimp only
        cases (machine.read p : Except FileError Bytes) <;> exact ⟨[p], rfl, rfl, List.Sublist.refl _⟩

/-- Whatever the cache holds, a fresh read gives the markers of the file as the machine reads it. -/
theorem readFresh_markers (hk : cache.KnownOn past) (hm : machine ∈ past) (ht : Host.TellsVersions past) (p : Path) :
    Noted (cache.readFresh machine.noting p) fun r new =>
      r.1 = machine.markers p ∧ r.2.KnownOn past ∧ new.Sublist [p] := by
  intro noted
  obtain ⟨new, hnew, hr, hread⟩ := readFresh_noting machine p cache noted
  have hexamined := examined machine (Id.run machine.now) p cache
  refine ⟨new, hnew, ?_⟩
  rw [hr]
  exact ⟨hexamined.markers_eq hk hm ht, hexamined.knownOn hk hm, hread⟩

end MarkerCache

namespace Compiled.Locator

open MarkerCache (Options Step afterSteps machines)

variable {machine : Host Id} {past : Set (Host Id)} {cache : MarkerCache} {refs : List String} {p : Path} {l : Locator}

/-- The file is a compiled source with a marker that names the template by one of the references, as the machine reads
it. -/
def fits (machine : Host Id) (refs : List String) (p : Path) : Bool :=
  Source.isCompiled p.text && (machine.markers p).any (names refs)

/-- Without references no template is named. -/
theorem names_nil (markers : Array Marker) : names [] markers = false := by
  rw [Bool.eq_false_iff]
  intro h
  obtain ⟨i, hi, hmarker⟩ := Array.any_iff_exists.1 h
  simp [Template.anyMatches] at hmarker

/-- References with the same members name the same templates. -/
theorem names_congr {refs' : List String} (h : ∀ ref, ref ∈ refs' ↔ ref ∈ refs) : names refs' = names refs := by
  have hmatches : Template.anyMatches refs' = Template.anyMatches refs := by
    funext markerRef
    unfold Template.anyMatches
    congr 1
    funext r
    rw [Bool.eq_iff_iff, List.any_eq_true, List.any_eq_true]
    simp only [h]
  unfold names
  rw [hmatches]

/-! ## Walking on a machine -/

theorem filesBelow_noting (machine : Host Id) (dirs : List Path) :
    Noted (filesBelow machine.noting dirs) fun files new =>
      files = dirs.flatMap (fun dir => Id.run (machine.filesBelow dir)) ∧ new = [] := by
  induction dirs with
  | nil => exact .of_pure ⟨rfl, rfl⟩
  | cons dir dirs ih =>
    refine Noted.andThen (P := fun files new => files = Id.run (machine.filesBelow dir) ∧ new = [])
      (.of_pure ⟨rfl, rfl⟩) ?_
    rintro _ _ ⟨rfl, rfl⟩
    refine ih.andThen ?_
    rintro _ _ ⟨rfl, rfl⟩
    exact .of_pure ⟨rfl, rfl⟩

/-- The first file that fits is found among those that are visited, and only compiled sources among them are read. -/
theorem firstOf_noting (hm : machine ∈ past) (ht : Host.TellsVersions past) (limit : Nat) (files : List Path) :
    ∀ (remaining : Nat) (cache : MarkerCache), cache.KnownOn past →
      Noted (firstOf machine.noting limit refs remaining cache files) fun r new =>
        r.1 = (files.take remaining).find? (fits machine refs) ∧
          new.Sublist ((files.take remaining).filter (Source.isCompiled ·.text)) := by
  -- the next file is read with whatever entries the cache has left, so the induction is for any known cache
  induction files with
  | nil =>
    intro remaining cache _
    rw [firstOf]
    exact .of_pure ⟨by simp, by simp⟩
  | cons p files ih =>
    intro remaining cache hk
    cases remaining with
    | zero =>
      refine Noted.andThen (P := fun _ new => new = []) (.of_pure rfl) ?_
      rintro _ _ rfl
      exact .of_pure ⟨by simp, by simp⟩
    | succ remaining =>
      rw [firstOf, List.take_succ_cons]
      cases hc : Source.isCompiled p.text with
      | false => simpa [fits, hc] using ih remaining cache hk
      | true =>
        simp only [List.filter_cons, hc, if_true]
        refine (MarkerCache.readFresh_markers hk hm ht p).andThen ?_
        rintro ⟨found, cache'⟩ new ⟨rfl, hk', hnew⟩
        dsimp only
        cases hmarkers : (machine.markers p).any (names refs) with
        | true =>
          refine Noted.andThen (P := fun _ new => new = []) (.of_pure rfl) ?_
          rintro _ _ rfl
          refine .of_pure ⟨by simp [fits, hc, hmarkers], ?_⟩
          simpa using hnew.trans (List.singleton_sublist.2 List.mem_cons_self)
        | false =>
          intro noted
          obtain ⟨more, hmore, hfound, hsub⟩ := ih remaining cache' hk' noted
          refine ⟨more, hmore, ?_, hnew.append hsub⟩
          simp only [fits, hc, hmarkers, Bool.and_false, List.find?_cons]
          exact hfound

theorem scan_noting (l : Locator) (refs : List String) (hk : cache.KnownOn past) (hm : machine ∈ past)
    (ht : Host.TellsVersions past) :
    Noted (l.scan machine.noting refs cache) fun r new =>
      let files := (l.workDirs.flatMap fun dir => Id.run (machine.filesBelow dir)).take l.limits.maxScanFiles
      r.1 = files.find? (fits machine refs) ∧ new.Sublist (files.filter (Source.isCompiled ·.text)) := by
  unfold scan
  split
  · rename_i hrefs
    rw [List.isEmpty_iff.1 hrefs]
    refine .of_pure ⟨?_, by simp⟩
    symm
    rw [List.find?_eq_none]
    intro p _ hfits
    obtain ⟨markers, -, hnamed⟩ := (Option.any_eq_true _ _).1 (Bool.and_eq_true_iff.1 hfits).2
    rw [names_nil] at hnamed
    cases hnamed
  · refine (filesBelow_noting machine l.workDirs).andThen ?_
    rintro _ _ ⟨rfl, rfl⟩
    exact firstOf_noting hm ht _ _ _ cache hk

/-! ## Within the budget -/

/-- The first item that satisfies `f` is found if the budget reaches it. -/
theorem find?_take_first {α : Type} {f : α → Bool} {xs : List α} {i : Nat} (hi : i < xs.length) (hf : f xs[i] = true)
    (hfirst : ∀ j (hj : j < i), f xs[j] = false) (n : Nat) :
    (xs.take n).find? f = if i < n then some xs[i] else none := by
  split
  · rename_i hin
    rw [List.find?_eq_some_iff_getElem]
    refine ⟨hf, i, ?_, List.getElem_take, fun j hj => ?_⟩
    · rw [List.length_take]
      omega
    · rw [List.getElem_take, hfirst j hj]
      rfl
  · rename_i hin
    rw [List.find?_eq_none]
    intro x hx
    obtain ⟨j, hj, rfl⟩ := List.mem_take_iff_getElem.1 hx
    rw [hfirst j (by omega)]
    exact Bool.false_ne_true

/-- The file that a walk finds. -/
def foundOn (machine : Host Id) (refs : List String) (cache : MarkerCache) (l : Locator) : Option Path :=
  (l.scan machine.noting refs cache []).1.1

/-- The files that a walk reads, in order. -/
def readOn (machine : Host Id) (refs : List String) (cache : MarkerCache) (l : Locator) : List Path :=
  (l.scan machine.noting refs cache []).2

section
variable {disk : Disk} {o : Options} {steps : List Step}

/-- On a machine with the files of a disk, after any steps on the cache. -/
theorem foundOn_afterSteps (hlists : ∀ dir, Id.run (machine.filesBelow dir) = disk.filesBelow dir)
    (htells : Host.TellsVersions (insert machine (machines steps))) (l : Locator) (refs : List String) :
    let files := (l.workDirs.flatMap disk.filesBelow).take l.limits.maxScanFiles
    l.foundOn machine refs (afterSteps o steps) = files.find? (fits machine refs) ∧
      (l.readOn machine refs (afterSteps o steps)).Sublist (files.filter (Source.isCompiled ·.text)) := by
  have hk := MarkerCache.knownOn_afterSteps o (Set.subset_insert machine (machines steps))
  obtain ⟨new, hnew, hfound, hread⟩ := scan_noting l refs hk (Set.mem_insert _ _) htells []
  rw [List.nil_append] at hnew
  simp only [hlists] at hfound hread
  rw [← hnew] at hread
  exact ⟨hfound, hread⟩

/-- With no step before, a disk as it is tells versions apart. -/
theorem tellsVersions_unread (disk : Disk) (now : Nat) : Host.TellsVersions (insert (disk.host now) (machines [])) := by
  refine (Disk.tellsVersions_singleton disk).hosts.mono ?_
  rintro machine (rfl | ⟨step, hstep, -⟩)
  · exact ⟨disk, rfl, now, rfl⟩
  · cases hstep

/-- When what reading a file gives changes only with its fingerprint, a walk over the files of a disk finds the first of
as many files as its budget that fits: the one at an index is found if the budget reaches it, a larger budget finds the
same, and neither the order of the references nor the cache of markers makes a difference. Only compiled sources among
those files are read, each at most once. The files are those of the work directories, in order. -/
theorem scan_finds_first (l : Locator) (refs : List String) (disk : Disk) (machine : Host Id) (o : Options)
    (steps : List Step) (hordered : disk.root.Ordered)
    (hlists : ∀ dir, Id.run (machine.filesBelow dir) = disk.filesBelow dir)
    (htells : Host.TellsVersions (insert machine (machines steps))) :
    let files := l.workDirs.flatMap disk.filesBelow
    let budget := l.limits.maxScanFiles
    let cache := afterSteps o steps
    (∀ dir, disk.Lists dir (disk.filesBelow dir)) ∧
    l.foundOn machine refs cache = (files.take budget).find? (fits machine refs) ∧
    (∀ (i : Nat) (hi : i < files.length), fits machine refs files[i] = true →
      (∀ j (hj : j < i), fits machine refs files[j] = false) →
        l.foundOn machine refs cache = if i < budget then some files[i] else none) ∧
    (∀ more p, budget ≤ more → l.foundOn machine refs cache = some p →
      { l with limits := { l.limits with maxScanFiles := more } }.foundOn machine refs cache = some p) ∧
    (∀ refs', (∀ ref, ref ∈ refs' ↔ ref ∈ refs) → l.foundOn machine refs' cache = l.foundOn machine refs cache) ∧
    (∀ o' steps', Host.TellsVersions (insert machine (machines steps')) →
      l.foundOn machine refs (afterSteps o' steps') = l.foundOn machine refs cache) ∧
    (l.readOn machine refs cache).Sublist ((files.take budget).filter (Source.isCompiled ·.text)) ∧
    (l.readOn machine refs cache).length ≤ budget := by
  intro files budget cache
  obtain ⟨hfound, hread⟩ := foundOn_afterSteps hlists htells (o := o) l refs
  refine ⟨Disk.filesBelow_lists hordered, hfound, ?_, ?_, ?_, ?_, hread, ?_⟩
  · intro i hi hfits hfirst
    rw [hfound]
    exact find?_take_first hi hfits hfirst budget
  · intro more p hmore hp
    rw [hfound] at hp
    rw [(foundOn_afterSteps hlists htells _ refs).1]
    exact (List.take_prefix_take_left hmore).find?_eq_some hp
  · intro refs' hrefs
    have hfits : fits machine refs' = fits machine refs := by
      funext p
      rw [fits, fits, names_congr hrefs]
    rw [(foundOn_afterSteps hlists htells l refs').1, hfits, hfound]
  · intro o' steps' htells'
    rw [(foundOn_afterSteps hlists htells' l refs).1, hfound]
  · calc (l.readOn machine refs cache).length
        ≤ ((files.take budget).filter (Source.isCompiled ·.text)).length := hread.length_le
      _ ≤ (files.take budget).length := List.length_filter_le _ _
      _ ≤ budget := List.length_take_le _ _

end

namespace Sample

/-- A file with a marker for this template. -/
def markerOf (inode : Nat) (template : String) : Node :=
  .file { identity := ⟨1, inode⟩, modified := ⟨0, 0⟩, bytes := Utf8.encode ("// line 1 \"" ++ template ++ "\"\n") }

def diskOf (entries : List (String × Node)) : Disk := ⟨.dir entries, [], ⟨1, 10⟩⟩

/-- The third file is the compiled source of `/a.jsp`. -/
def shelves : Disk :=
  diskOf [("c", .dir [("a.txt", markerOf 1 "/a.jsp"), ("b_jsp.java", markerOf 2 "/b.jsp"),
    ("d", .dir [("c_jsp.java", markerOf 3 "/a.jsp")])])]

/-- So many files are visited. -/
def within (budget : Nat) : Locator := .new [⟨"/c"⟩] ⟨budget, 0⟩

/-- The second file has been read before. -/
def readBefore : List Step := [⟨shelves.host 0, .readFresh ⟨"/c/b_jsp.java"⟩⟩]

end Sample

theorem tellsVersions_shelves : Host.TellsVersions (insert (Sample.shelves.host 5) (machines Sample.readBefore)) := by
  have hdisk : Disk.TellsVersions {disk | ∃ d ∈ [Sample.shelves], d = disk} :=
    Disk.tellsVersions_of_list id (by decide +kernel)
  refine hdisk.hosts.mono ?_
  rintro machine (rfl | ⟨step, hstep, rfl⟩)
  · exact ⟨_, ⟨_, List.mem_cons_self, rfl⟩, 5, rfl⟩
  · obtain rfl := List.mem_singleton.1 hstep
    exact ⟨_, ⟨_, List.mem_cons_self, rfl⟩, 0, rfl⟩

theorem ordered_shelves : Sample.shelves.root.Ordered := by
  simp only [Sample.shelves, Sample.diskOf, Sample.markerOf, Node.Ordered, Node.OrderedIn]
  decide +kernel

/-- The third file is found within a budget of three and not within one of two, whatever was read before. -/
theorem scan_finds_first_third :
    (Sample.within 3).foundOn (Sample.shelves.host 5) ["/a.jsp"] (afterSteps ⟨1, 0⟩ Sample.readBefore) =
      some ⟨"/c/d/c_jsp.java"⟩ ∧
    (Sample.within 2).foundOn (Sample.shelves.host 5) ["/a.jsp"] (afterSteps ⟨1, 0⟩ Sample.readBefore) = none ∧
    (Sample.within 3).foundOn (Sample.shelves.host 5) ["/a.jsp"] (afterSteps ⟨7, 0⟩ []) =
      some ⟨"/c/d/c_jsp.java"⟩ ∧
    ((Sample.within 2).readOn (Sample.shelves.host 5) ["/a.jsp"] (afterSteps ⟨1, 0⟩ Sample.readBefore)).length ≤ 2 := by
  obtain ⟨-, -, hthree, -, -, hcaches, -, -⟩ := scan_finds_first (Sample.within 3) ["/a.jsp"] Sample.shelves
    (Sample.shelves.host 5) ⟨1, 0⟩ Sample.readBefore ordered_shelves (fun _ => rfl) tellsVersions_shelves
  obtain ⟨-, -, htwo, -, -, -, -, hread⟩ := scan_finds_first (Sample.within 2) ["/a.jsp"] Sample.shelves
    (Sample.shelves.host 5) ⟨1, 0⟩ Sample.readBefore ordered_shelves (fun _ => rfl) tellsVersions_shelves
  have hfound := (hthree 2 (by decide +kernel) (by decide +kernel) (by decide +kernel)).trans
    (show _ = some ⟨"/c/d/c_jsp.java"⟩ by decide +kernel)
  exact ⟨hfound, htwo 2 (by decide +kernel) (by decide +kernel) (by decide +kernel),
    (hcaches ⟨7, 0⟩ [] (tellsVersions_unread Sample.shelves 5)).trans hfound, hread⟩

namespace Sample

/-- The compiled source of this template. -/
def page (template : String) : Disk := diskOf [("c", .dir [("a_jsp.java", markerOf 1 template)])]

def longName : String := String.ofList (List.replicate 200 'd')

/-- A file without a name for any template. -/
def blank : RegularFile := { identity := ⟨1, 2⟩, modified := ⟨0, 0⟩, bytes := [] }

/-- A directory with a long name below `/w`, with a file in it, and the compiled source of `/a.jsp` below `/v`. -/
def deep : Disk :=
  diskOf [("v", .dir [("a_jsp.java", markerOf 1 "/a.jsp")]),
    ("w", .dir [(longName, .dir [("x.txt", .file blank)])])]

/-- `/w` with so many slashes in front. -/
def spelled (n : Nat) : Path := ⟨Path.slashes n ++ "/w"⟩

end Sample

section
variable {n : Nat}

theorem utf8ByteSize_spelled (n : Nat) : (Sample.spelled n).text.utf8ByteSize = n + 2 := by
  rw [Sample.spelled, String.utf8ByteSize_append, Path.utf8ByteSize_slashes]
  rfl

theorem toList_spelled (n : Nat) : (Sample.spelled n).text.toList = List.replicate n '/' ++ ['/', 'w'] := by
  rw [Sample.spelled, String.toList_append, Path.toList_slashes]
  rfl

theorem node_spelled (h : n + 2 ≤ 4095) : Sample.deep.node (Sample.spelled n) =
    .ok (.dir [(Sample.longName, .dir [("x.txt", .file Sample.blank)])]) := by
  have hkey : (Sample.spelled n).components = Path.components ⟨"/w"⟩ := Path.components_slashes n rfl
  have hsteps : Disk.steps (Sample.spelled n).text = ["w"] := by
    rw [Disk.steps, toList_spelled, Path.names_slashes, if_neg (by simp)]
    rfl
  have hfile : (Sample.spelled n).NamesFile := ⟨by rwa [utf8ByteSize_spelled], by rw [hsteps]; decide⟩
  have hshort : Path.NamesFile ⟨"/w"⟩ := ⟨by decide, by decide⟩
  rw [Disk.node_congr hkey hfile hshort]
  rfl

/-- With many slashes the directory with the long name cannot be opened. -/
theorem filesBelow_spelled (h : n + 2 ≤ 4095) (hlong : 4095 < n + 203) :
    Sample.deep.filesBelow (Sample.spelled n) = [] := by
  have hsize : Sample.longName.utf8ByteSize = 200 := by decide +kernel
  have hjoin : (Sample.spelled n).join Sample.longName = ⟨(Sample.spelled n).text ++ "/" ++ Sample.longName⟩ := by
    rw [Path.join, if_neg (by decide +kernel), if_neg ?_]
    rintro (hempty | hslash)
    · rw [String.isEmpty_iff_utf8ByteSize_eq_zero, utf8ByteSize_spelled] at hempty
      omega
    · simp [toList_spelled] at hslash
  have hclosed : 4095 < ((Sample.spelled n).join Sample.longName).text.utf8ByteSize := by
    rw [hjoin, String.utf8ByteSize_append, String.utf8ByteSize_append, utf8ByteSize_spelled, hsize]
    have hslash : "/".utf8ByteSize = 1 := rfl
    omega
  rw [Disk.filesBelow, node_spelled h]
  simp only [Node.filesIn, Node.files, if_pos hclosed, List.append_nil]

end

/-- A file that was rewritten under its fingerprint is found for the template that it named before, though none of the
files names it now and nothing is found without that entry. And with a budget of one the file in the second work
directory is found, though there is one in the first: its directory cannot be opened, so it does not count. -/
theorem scan_not_always_first :
    ((Sample.within 10).foundOn ((Sample.page "/b.jsp").host 1) ["/a.jsp"]
        (afterSteps ⟨8, 0⟩ [⟨(Sample.page "/a.jsp").host 0, .readFresh ⟨"/c/a_jsp.java"⟩⟩]) = some ⟨"/c/a_jsp.java"⟩ ∧
      ((((Sample.within 10).workDirs.flatMap (Sample.page "/b.jsp").filesBelow).take 10).find?
        (fits ((Sample.page "/b.jsp").host 1) ["/a.jsp"])) = none ∧
      (Sample.within 10).foundOn ((Sample.page "/b.jsp").host 1) ["/a.jsp"] (afterSteps ⟨8, 0⟩ []) = none) ∧
    ∃ es, Sample.deep.node (Sample.spelled 3900) = .ok (.dir es) ∧
      (Sample.longName, Node.dir [("x.txt", .file Sample.blank)]) ∈ es ∧
      (Locator.new [Sample.spelled 3900, ⟨"/v"⟩] ⟨1, 0⟩).foundOn (Sample.deep.host 0) ["/a.jsp"]
        (afterSteps ⟨8, 0⟩ []) = some ⟨"/v/a_jsp.java"⟩ := by
  refine ⟨⟨by decide +kernel, by decide +kernel, by decide +kernel⟩, _, node_spelled (by decide), ?_, ?_⟩
  · exact List.mem_singleton_self _
  · have hfiles : [Sample.spelled 3900, ⟨"/v"⟩].flatMap Sample.deep.filesBelow = [⟨"/v/a_jsp.java"⟩] := by
      rw [List.flatMap_cons, filesBelow_spelled (by decide) (by decide)]
      decide +kernel
    rw [(foundOn_afterSteps (fun _ => rfl) (tellsVersions_unread Sample.deep 0) _ _).1]
    show (([Sample.spelled 3900, ⟨"/v"⟩].flatMap Sample.deep.filesBelow).take 1).find? _ = _
    rw [hfiles]
    decide +kernel

end Compiled.Locator

end TemplateDebug
