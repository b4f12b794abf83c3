import TemplateDebug.Proofs.Compiled.Discovery
import TemplateDebug.Proofs.Template.Reference
/-!
# Templates that share a name

A template is looked for by its spellings below the web roots and by its file name, which the templates of other
directories may bear, too. A walk ends at the first file whose markers use any of these. So a file that uses a spelling
is found only where no file before it uses the name alone.
-/

namespace TemplateDebug

/-- The file is a compiled source with a marker that names a template by one of the references. -/
def Disk.uses (disk : Disk) (refs : List String) (p : Path) : Bool :=
  Source.isCompiled p.text && (disk.markers p).any (Compiled.Locator.names refs)

namespace Compiled.Locator

variable {disk : Disk} {past : Set Disk} {cache : MarkerCache} {refs : List String} {p : Path}

theorem names_append (refs refs' : List String) (markers : Array Marker) :
    names (refs ++ refs') markers = (names refs markers || names refs' markers) := by
  have hmatches : ∀ r, Template.anyMatches (refs ++ refs') r =
      (Template.anyMatches refs r || Template.anyMatches refs' r) := by
    intro r
    cases r <;> simp [Template.anyMatches]
  rw [Bool.eq_iff_iff, Bool.or_eq_true]
  simp only [names, hmatches, Array.any_eq_true', Bool.or_eq_true, and_or_left, exists_or]

theorem uses_append (refs refs' : List String) (p : Path) :
    disk.uses (refs ++ refs') p = (disk.uses refs p || disk.uses refs' p) := by
  unfold Disk.uses
  cases disk.markers p <;> simp [names_append, Bool.and_or_distrib_left]

/-- Without references no file is used. -/
theorem uses_nil : disk.uses [] p = false := by
  unfold Disk.uses
  cases disk.markers p <;> simp [names_nil]

/-- References with the same members are used by the same files. -/
theorem uses_congr {refs' : List String} (h : ∀ ref, ref ∈ refs' ↔ ref ∈ refs) : disk.uses refs' = disk.uses refs := by
  funext p
  rw [Disk.uses, Disk.uses, names_congr h]

theorem locate_eq (disk : Disk) (workDirs : List Path) (limit : Nat) (refs : List String) :
    disk.locate workDirs limit refs = ((workDirs.flatMap disk.filesBelow).take limit).find? (disk.uses refs) := by
  unfold Disk.locate
  split
  · rename_i hempty
    rw [List.isEmpty_iff.1 hempty, List.find?_eq_none.2]
    intro p _
    simp [uses_nil]
  · rfl

/-- The first item that satisfies `f` or `g` satisfies `f` where no item before the first of those satisfies `g`. -/
theorem find?_or {α : Type} {f g : α → Bool} {xs : List α} {i : Nat} (hi : i < xs.length) (hf : f xs[i] = true)
    (hfirst : ∀ j (hj : j < xs.length), j < i → f xs[j] = false) :
    ∃ k, ∃ hk : k < xs.length, k ≤ i ∧ xs.find? (fun x => f x || g x) = some xs[k] ∧
      (f xs[k] = true ↔ ∀ j (hj : j < xs.length), j < i → g xs[j] = false) := by
  have hsome : (xs.find? fun x => f x || g x).isSome := by
    rw [List.find?_isSome]
    exact ⟨xs[i], List.getElem_mem hi, by simp [hf]⟩
  obtain ⟨x, hx⟩ := Option.isSome_iff_exists.1 hsome
  obtain ⟨hsatisfies, k, hk, rfl, hbefore⟩ := List.find?_eq_some_iff_getElem.1 hx
  have hki : k ≤ i := by
    by_contra hlt
    simpa [hf] using hbefore i (by omega)
  refine ⟨k, hk, hki, hx, ?_, ?_⟩
  · intro hfk j hj hji
    have hik : k = i := by
      by_contra hne
      simp [hfirst k hk (by omega)] at hfk
    subst hik
    have := hbefore j hji
    simp at this
    exact this.2
  · intro hg
    by_cases hik : k = i
    · subst hik
      exact hf
    · simp [hfirst k hk (by omega), hg k hk (by omega)] at hsatisfies

/-- A walk ends at the first file, within its budget, that uses a spelling of the template or its file name. With `i` the
index of the first file that uses a spelling, the file found is not after that, and it uses a spelling exactly when no
file before it uses the name. -/
theorem find_spelled_or_named (workDirs : List Path) (limits : Limits) (template : Path) (webRoots : List Path)
    (hk : cache.Known past) (hd : disk ∈ past) (ht : Disk.TellsVersions past) (clock : Clock) :
    let files := (workDirs.flatMap disk.filesBelow).take limits.maxScanFiles
    let spelled := disk.uses (Template.spellings template webRoots)
    let named := disk.uses template.fileName?.toList
    let found := ((Locator.new workDirs limits).find disk.tickingHost template
      (Template.plausibleRefs template webRoots) cache clock).1.1
    found = files.find? (fun p => spelled p || named p) ∧
      ∀ (i : Nat) (hi : i < files.length), spelled files[i] = true → (∀ j (hj : j < i), spelled files[j] = false) →
        ∃ k, ∃ hk : k ≤ i, found = some files[k] ∧ (spelled files[k] = true ↔ ∀ j (hj : j < i), named files[j] = false) := by
  intro files spelled named found
  have hfound : found = files.find? fun p => spelled p || named p := by
    have hlocated : found = disk.locate workDirs limits.maxScanFiles (Template.plausibleRefs template webRoots) :=
      (find_current (current_new disk (Template.plausibleRefs · webRoots) workDirs limits) hk hd ht
        (fun _ _ hpq => Template.plausibleRefs_congr hpq webRoots) clock).1
    rw [hlocated, locate_eq, uses_congr fun _ => Template.mem_plausibleRefs_iff]
    congr 1
    funext p
    exact uses_append _ _ p
  refine ⟨hfound, fun i hi hspelled hfirst => ?_⟩
  rw [hfound]
  obtain ⟨k, hlt, hki, hfirstOf, hiff⟩ := find?_or hi hspelled fun j _ hji => hfirst j hji
  exact ⟨k, hki, hfirstOf, hiff.trans ⟨fun h j hj => h j (hj.trans hi) hj, fun h j _ hj => h j hj⟩⟩

namespace Sample

/-- Two compiled sources: of some template that is named by its file name alone, and of `/admin/list.jsp`. -/
def lists : Disk :=
  diskOf [("c", .dir [("a_jsp.java", markerOf 1 "list.jsp"), ("b_jsp.java", markerOf 2 "/admin/list.jsp")])]

/-- The same with the first one in a place behind the second. -/
def listsTurned : Disk :=
  diskOf [("c", .dir [("b_jsp.java", markerOf 2 "/admin/list.jsp"), ("d_jsp.java", markerOf 1 "list.jsp")])]

end Sample

/-- The file that uses a spelling comes first and is found. -/
theorem find_spelled_or_named_turned :
    ((Locator.new [⟨"/c"⟩] ⟨10, 0⟩).find Sample.listsTurned.tickingHost ⟨"/ws/admin/list.jsp"⟩
      (Template.plausibleRefs ⟨"/ws/admin/list.jsp"⟩ [⟨"/ws"⟩]) (.new ⟨8, 0⟩) (Stream'.const 0)).1.1 =
        some ⟨"/c/b_jsp.java"⟩ ∧
      Sample.listsTurned.uses (Template.spellings ⟨"/ws/admin/list.jsp"⟩ [⟨"/ws"⟩]) ⟨"/c/b_jsp.java"⟩ = true := by
  obtain ⟨-, hfirst⟩ := find_spelled_or_named [⟨"/c"⟩] ⟨10, 0⟩ ⟨"/ws/admin/list.jsp"⟩ [⟨"/ws"⟩]
    (MarkerCache.known_new {Sample.listsTurned} ⟨8, 0⟩) (Set.mem_singleton _)
    (Disk.tellsVersions_singleton Sample.listsTurned) (Stream'.const 0)
  obtain ⟨k, hk, hfound, hspelled⟩ := hfirst 0 (by decide +kernel) (by decide +kernel) (fun j hj => by omega)
  obtain rfl := Nat.le_zero.1 hk
  have hfile : (([⟨"/c"⟩] : List Path).flatMap Sample.listsTurned.filesBelow).take 10 =
      [⟨"/c/b_jsp.java"⟩, ⟨"/c/d_jsp.java"⟩] := by decide +kernel
  simp only [hfile, List.getElem_cons_zero] at hfound hspelled
  exact ⟨hfound, hspelled.2 fun j hj => by omega⟩

/-- A file that uses the name alone may be found though there is one that uses a spelling. -/
theorem name_not_last_resort :
    ¬ ∀ (disk : Disk) (workDirs : List Path) (limits : Limits) (template : Path) (webRoots : List Path) (clock : Clock),
      (∃ p ∈ (workDirs.flatMap disk.filesBelow).take limits.maxScanFiles,
        disk.uses (Template.spellings template webRoots) p = true) →
      ∃ p, ((Locator.new workDirs limits).find disk.tickingHost template (Template.plausibleRefs template webRoots)
          (.new ⟨8, 0⟩) clock).1.1 = some p ∧ disk.uses (Template.spellings template webRoots) p = true := by
  intro h
  obtain ⟨p, hfound, hspelled⟩ := h Sample.lists [⟨"/c"⟩] ⟨10, 0⟩ ⟨"/ws/admin/list.jsp"⟩ [⟨"/ws"⟩] (Stream'.const 0)
    ⟨⟨"/c/b_jsp.java"⟩, by decide +kernel, by decide +kernel⟩
  have hnamed : ((Locator.new [⟨"/c"⟩] ⟨10, 0⟩).find Sample.lists.tickingHost ⟨"/ws/admin/list.jsp"⟩
      (Template.plausibleRefs ⟨"/ws/admin/list.jsp"⟩ [⟨"/ws"⟩]) (.new ⟨8, 0⟩) (Stream'.const 0)).1.1 =
        some ⟨"/c/a_jsp.java"⟩ := by decide +kernel
  cases hnamed.symm.trans hfound
  exact absurd hspelled (by decide +kernel)

end Compiled.Locator

end TemplateDebug
