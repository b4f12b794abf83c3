import TemplateDebug.Proofs.Firsts
import TemplateDebug.Proofs.Path.Joined
import TemplateDebug.Settings.Directories
/-!
# Directories in effect

The web roots and the work directories in effect are the first occurrences in the order in which their sources count.
Paths are equal here when they have the same components, however they are spelled.
-/

namespace TemplateDebug

namespace Path

theorem same_iff {p q : Path} : p.same q = true ↔ p.components = q.components := beq_iff_eq

theorem pushNew_eq : pushNew = addNew components := by
  funext paths p
  simp [pushNew, addNew, same_iff]

theorem pushAllNew_eq (found paths : List Path) : pushAllNew found paths = addAllNew components found paths := by
  rw [pushAllNew, pushNew_eq, addAllNew]

end Path

namespace DebugSettings

variable {s : DebugSettings} {env : Environment} {roots roots' : List Path}

/-! ## The order of the sources -/

/-- The web roots of the settings below each workspace root, then the workspace roots; without a workspace root, the
absolute web roots of the settings. -/
def webRootOrder (s : DebugSettings) (roots : List Path) : List Path :=
  if roots = [] then s.webRoots.filter Path.isAbsolute
  else (roots.flatMap fun root => s.webRoots.map fun w => root.join w.text) ++ roots

/-- The directory `work` of the home that a variable names. A variable that is not set or is empty names none. -/
def workBelow (env : Environment) (name : String) : List Path :=
  match env.bindings.lookup name with
  | none | some "" => []
  | some home => [(Path.mk home).join "work"]

/-- Where the engines of the environment and those of a workspace work by convention. -/
def defaultWorkDirs (env : Environment) (roots : List Path) : List Path :=
  ["CATALINA_BASE", "CATALINA_HOME", "JETTY_BASE"].flatMap (workBelow env) ++
    roots.flatMap fun root => [root.join "target/tomcat/work", root.join "build/jsp"]

/-- The work directories of the settings, an absolute one once and a relative one below each workspace root, then the
conventional ones if they are wanted. -/
def workDirOrder (s : DebugSettings) (env : Environment) (roots : List Path) : List Path :=
  (s.workDirs.flatMap fun dir => if dir.isAbsolute then [dir] else roots.map fun root => root.join dir.text) ++
    if s.useDefaultWorkDirs then defaultWorkDirs env roots else []

theorem workBelow_eq (env : Environment) (name : String) : workBelow env name = (env.engineWork? name).toList := by
  unfold workBelow Environment.engineWork? Environment.nonempty?
  split
  · rename_i h
    rw [h]
    rfl
  · rename_i h
    rw [h]
    rfl
  · rename_i home hempty h
    have hhome : (!home.isEmpty) = true := by simpa using hempty
    rw [h, Option.filter_some, if_pos hhome]
    rfl

theorem flatMap_workBelow (env : Environment) (names : List String) :
    names.flatMap (workBelow env) = names.filterMap env.engineWork? := by
  rw [List.filterMap_eq_flatMap_toList]
  congr 1
  funext name
  exact workBelow_eq env name

theorem defaultWorkDirs_eq (env : Environment) (roots : List Path) : defaultWorkDirs env roots =
    engineHomes.filterMap env.engineWork? ++ roots.flatMap fun root => conventionalWorkDirs.map root.join := by
  rw [defaultWorkDirs, flatMap_workBelow]
  rfl

theorem workDirOrder_eq (s : DebugSettings) (env : Environment) (roots : List Path) : s.workDirOrder env roots =
    s.workDirs.flatMap (placed roots) ++ if s.useDefaultWorkDirs then defaultWorkDirs env roots else [] := rfl

theorem effectiveWebRoots_eq (s : DebugSettings) (roots : List Path) :
    s.effectiveWebRoots roots = firsts Path.components (s.webRootOrder roots) := by
  unfold effectiveWebRoots
  simp only [Path.pushAllNew_eq]
  rw [foldl_addAllNew_nil, addAllNew_firsts, addAllNew_firsts]
  cases roots with
  | nil => rfl
  | cons root roots => rfl

theorem effectiveWorkDirs_eq (s : DebugSettings) (env : Environment) (roots : List Path) :
    s.effectiveWorkDirs env roots = firsts Path.components (s.workDirOrder env roots) := by
  unfold effectiveWorkDirs
  simp only [Path.pushAllNew_eq, workDirOrder_eq, defaultWorkDirs_eq]
  rw [foldl_addAllNew_nil, addAllNew_firsts, foldl_addAllNew]
  split
  · rw [List.append_assoc]
  · rw [List.append_nil]

/-! ## What counts -/

/-- What stands in the order is in effect, in the spelling that comes first. -/
theorem exists_of_mem_webRootOrder {p : Path} (h : p ∈ s.webRootOrder roots) :
    ∃ q ∈ s.effectiveWebRoots roots, q.components = p.components := by
  rw [effectiveWebRoots_eq, exists_mem_firsts_iff]
  exact ⟨p, h, rfl⟩

theorem exists_of_mem_workDirOrder {p : Path} (h : p ∈ s.workDirOrder env roots) :
    ∃ q ∈ s.effectiveWorkDirs env roots, q.components = p.components := by
  rw [effectiveWorkDirs_eq, exists_mem_firsts_iff]
  exact ⟨p, h, rfl⟩

theorem mem_webRootOrder_of_root {root : Path} (h : root ∈ roots) : root ∈ s.webRootOrder roots := by
  rw [webRootOrder, if_neg (List.ne_nil_of_mem h)]
  exact List.mem_append_right _ h

/-- An absolute web root counts below each workspace root, or alone. -/
theorem mem_webRootOrder_of_absolute {w : Path} (h : w ∈ s.webRoots) (habsolute : w.isAbsolute = true) :
    w ∈ s.webRootOrder roots := by
  cases roots with
  | nil => exact List.mem_filter.2 ⟨h, habsolute⟩
  | cons root roots =>
    rw [webRootOrder, if_neg (List.cons_ne_nil root roots)]
    apply List.mem_append_left
    rw [List.flatMap_cons]
    exact List.mem_append_left _ (List.mem_map.2 ⟨w, h, Path.join_of_isAbsolute root habsolute⟩)

theorem mem_workDirOrder_of_absolute {dir : Path} (h : dir ∈ s.workDirs) (habsolute : dir.isAbsolute = true) :
    dir ∈ s.workDirOrder env roots := by
  rw [workDirOrder_eq]
  apply List.mem_append_left
  refine List.mem_flatMap.2 ⟨dir, h, ?_⟩
  rw [placed, if_pos habsolute]
  exact List.mem_singleton_self dir

/-! ## What makes no difference -/

/-- Equal directories are placed alike. -/
theorem exists_mem_placed {dir dir' place' : Path} (h : dir.components = dir'.components)
    (hplace : place' ∈ placed roots dir') :
    ∃ place ∈ placed roots dir, place.components = place'.components := by
  unfold placed at hplace ⊢
  rw [(Path.names_of_components h).1]
  split at hplace
  · rename_i habsolute
    rw [if_pos habsolute, List.mem_singleton.1 hplace]
    exact ⟨dir, List.mem_singleton_self dir, h⟩
  · rename_i hrelative
    obtain ⟨root, hroot, rfl⟩ := List.mem_map.1 hplace
    rw [if_neg hrelative]
    exact ⟨root.join dir.text, List.mem_map_of_mem hroot, Path.components_join_congr rfl h⟩

theorem flatMap_placed_nil (dirs : List Path) : dirs.flatMap (placed []) = dirs.filter Path.isAbsolute := by
  induction dirs with
  | nil => rfl
  | cons dir dirs ih => cases h : dir.isAbsolute <;> simp [placed, h, ih]

theorem effectiveWebRoots_repeated {entries : List Path} (h : Repeats Path.components s.webRoots entries) :
    { s with webRoots := entries }.effectiveWebRoots roots = s.effectiveWebRoots roots := by
  rw [effectiveWebRoots_eq, effectiveWebRoots_eq, webRootOrder, webRootOrder]
  split
  · -- to keep the absolute entries is to place them below no workspace root
    rw [← flatMap_placed_nil, ← flatMap_placed_nil]
    exact h.firsts_flatMap fun _ _ hw _ => exists_mem_placed hw
  · apply firsts_append_congr_left
    apply firsts_flatMap_congr
    intro root _
    exact h.firsts_map fun _ _ hw => Path.components_join_congr rfl hw

theorem effectiveWorkDirs_repeated {entries : List Path} (h : Repeats Path.components s.workDirs entries) :
    { s with workDirs := entries }.effectiveWorkDirs env roots = s.effectiveWorkDirs env roots := by
  rw [effectiveWorkDirs_eq, effectiveWorkDirs_eq, workDirOrder_eq, workDirOrder_eq]
  apply firsts_append_congr_left
  exact h.firsts_flatMap fun _ _ hdir _ => exists_mem_placed hdir

/-- Equal workspace roots have equal directories below them. -/
theorem exists_mem_below {ι : Type} (rel : ι → String) {xs : List ι} {root root' place' : Path}
    (h : root.components = root'.components) (hplace : place' ∈ xs.map fun x => root'.join (rel x)) :
    ∃ place ∈ xs.map fun x => root.join (rel x), place.components = place'.components := by
  obtain ⟨x, hx, rfl⟩ := List.mem_map.1 hplace
  exact ⟨root.join (rel x), List.mem_map_of_mem hx, Path.components_join_congr (r := ⟨rel x⟩) h rfl⟩

theorem effectiveWebRoots_repeated_root (s : DebugSettings) (h : Repeats Path.components roots roots') :
    s.effectiveWebRoots roots' = s.effectiveWebRoots roots := by
  rw [effectiveWebRoots_eq, effectiveWebRoots_eq, webRootOrder, webRootOrder, if_neg h.ne_nil.1, if_neg h.ne_nil.2,
    firsts_append_congr_right h.firsts_eq]
  apply firsts_append_congr_left
  exact h.firsts_flatMap fun _ _ hroot _ => exists_mem_below Path.text hroot

theorem effectiveWorkDirs_repeated_root (s : DebugSettings) (env : Environment)
    (h : Repeats Path.components roots roots') : s.effectiveWorkDirs env roots' = s.effectiveWorkDirs env roots := by
  have hplaced : ∀ dir ∈ s.workDirs,
      firsts Path.components (placed roots' dir) = firsts Path.components (placed roots dir) := by
    intro dir _
    unfold placed
    split
    · rfl
    · exact h.firsts_map fun _ _ hroot => Path.components_join_congr hroot rfl
  have hdefault : firsts Path.components (defaultWorkDirs env roots') =
      firsts Path.components (defaultWorkDirs env roots) := by
    rw [defaultWorkDirs_eq, defaultWorkDirs_eq]
    apply firsts_append_congr_right
    exact h.firsts_flatMap fun _ _ hroot _ => exists_mem_below id hroot
  rw [effectiveWorkDirs_eq, effectiveWorkDirs_eq, workDirOrder_eq, workDirOrder_eq,
    firsts_append_congr_left (firsts_flatMap_congr hplaced)]
  apply firsts_append_congr_right
  split
  · exact hdefault
  · rfl

/-! ## The directories in effect -/

/-- Without the default work directories there are the first ones of those there are with them. -/
theorem effectiveWorkDirs_prefix (s : DebugSettings) (env : Environment) (roots : List Path) :
    { s with useDefaultWorkDirs := false }.effectiveWorkDirs env roots <+:
      { s with useDefaultWorkDirs := true }.effectiveWorkDirs env roots := by
  rw [effectiveWorkDirs_eq, effectiveWorkDirs_eq]
  simp only [workDirOrder_eq, Bool.false_eq_true, if_false, if_true, List.append_nil]
  exact firsts_prefix _ _

/-- The directories in effect are the first occurrences in the order of their sources, so no two are equal. A workspace
root is a web root, and what is absolute counts whatever workspace roots there are. To repeat an entry or a workspace
root further on makes no difference, and the default work directories come last. -/
theorem directories_in_order (s : DebugSettings) (env : Environment) (roots : List Path) :
    (s.effectiveWebRoots roots = firsts Path.components (s.webRootOrder roots) ∧
      ((s.effectiveWebRoots roots).map Path.components).Nodup) ∧
    (s.effectiveWorkDirs env roots = firsts Path.components (s.workDirOrder env roots) ∧
      ((s.effectiveWorkDirs env roots).map Path.components).Nodup) ∧
    (∀ root ∈ roots, ∃ p ∈ s.effectiveWebRoots roots, p.components = root.components) ∧
    (∀ w ∈ s.webRoots, w.isAbsolute = true → ∃ p ∈ s.effectiveWebRoots roots, p.components = w.components) ∧
    (∀ dir ∈ s.workDirs, dir.isAbsolute = true →
      ∃ p ∈ s.effectiveWorkDirs env roots, p.components = dir.components) ∧
    (∀ entries, Repeats Path.components s.webRoots entries →
      { s with webRoots := entries }.effectiveWebRoots roots = s.effectiveWebRoots roots) ∧
    (∀ entries, Repeats Path.components s.workDirs entries →
      { s with workDirs := entries }.effectiveWorkDirs env roots = s.effectiveWorkDirs env roots) ∧
    (∀ roots', Repeats Path.components roots roots' →
      s.effectiveWebRoots roots' = s.effectiveWebRoots roots ∧
        s.effectiveWorkDirs env roots' = s.effectiveWorkDirs env roots) ∧
    { s with useDefaultWorkDirs := false }.effectiveWorkDirs env roots <+:
      { s with useDefaultWorkDirs := true }.effectiveWorkDirs env roots := by
  refine ⟨⟨effectiveWebRoots_eq s roots, ?_⟩, ⟨effectiveWorkDirs_eq s env roots, ?_⟩, ?_, ?_, ?_, ?_, ?_, ?_,
    effectiveWorkDirs_prefix s env roots⟩
  · rw [effectiveWebRoots_eq]
    exact nodup_map_firsts _ _
  · rw [effectiveWorkDirs_eq]
    exact nodup_map_firsts _ _
  · intro root hroot
    exact exists_of_mem_webRootOrder (mem_webRootOrder_of_root hroot)
  · intro w hw habsolute
    exact exists_of_mem_webRootOrder (mem_webRootOrder_of_absolute hw habsolute)
  · intro dir hdir habsolute
    exact exists_of_mem_workDirOrder (mem_workDirOrder_of_absolute hdir habsolute)
  · intro entries h
    exact effectiveWebRoots_repeated h
  · intro entries h
    exact effectiveWorkDirs_repeated h
  · intro roots' h
    exact ⟨effectiveWebRoots_repeated_root s h, effectiveWorkDirs_repeated_root s env h⟩

namespace Sample

/-- A relative and an absolute directory of each kind. -/
def shared : DebugSettings :=
  { webRoots := [⟨"web"⟩, ⟨"/srv/web"⟩], workDirs := [⟨"/opt/work"⟩, ⟨"out"⟩] }

/-- The work directory of the first engine is one of the settings, and the second has no home. -/
def engine : Environment := ⟨[("JETTY_BASE", "/jetty"), ("CATALINA_BASE", "/opt/."), ("CATALINA_HOME", "")]⟩

def twoRoots : List Path := [⟨"/ws"⟩, ⟨"/b"⟩]

theorem repeats_root : Repeats Path.components twoRoots [⟨"/ws"⟩, ⟨"/b"⟩, ⟨"//ws/."⟩] :=
  .later twoRoots [] List.mem_cons_self (by decide +kernel)

theorem repeats_webRoot : Repeats Path.components shared.webRoots [⟨"web"⟩, ⟨"/srv/web"⟩, ⟨"web/"⟩] :=
  .later shared.webRoots [] List.mem_cons_self (by decide +kernel)

theorem repeats_workDir : Repeats Path.components shared.workDirs [⟨"/opt/work"⟩, ⟨"out"⟩, ⟨"/opt//work"⟩] :=
  .later shared.workDirs [] List.mem_cons_self (by decide +kernel)

end Sample

/-- What is repeated in another spelling brings no directory, and neither does an engine that works where the settings
say or has no home. An engine that works elsewhere brings one between the settings and the workspace roots. -/
theorem directories_in_order_respelled :
    (∃ p ∈ Sample.shared.effectiveWebRoots Sample.twoRoots, p.components = Path.components ⟨"/b"⟩) ∧
    (∃ p ∈ Sample.shared.effectiveWebRoots Sample.twoRoots, p.components = Path.components ⟨"/srv/web"⟩) ∧
    (∃ p ∈ Sample.shared.effectiveWorkDirs Sample.engine Sample.twoRoots,
      p.components = Path.components ⟨"/opt/work"⟩) ∧
    { Sample.shared with webRoots := [⟨"web"⟩, ⟨"/srv/web"⟩, ⟨"web/"⟩] }.effectiveWebRoots Sample.twoRoots =
      Sample.shared.effectiveWebRoots Sample.twoRoots ∧
    { Sample.shared with workDirs := [⟨"/opt/work"⟩, ⟨"out"⟩, ⟨"/opt//work"⟩] }.effectiveWorkDirs Sample.engine
      Sample.twoRoots = Sample.shared.effectiveWorkDirs Sample.engine Sample.twoRoots ∧
    Sample.shared.effectiveWebRoots [⟨"/ws"⟩, ⟨"/b"⟩, ⟨"//ws/."⟩] =
      [⟨"/ws/web"⟩, ⟨"/srv/web"⟩, ⟨"/b/web"⟩, ⟨"/ws"⟩, ⟨"/b"⟩] ∧
    Sample.shared.effectiveWorkDirs Sample.engine [⟨"/ws"⟩, ⟨"/b"⟩, ⟨"//ws/."⟩] =
      [⟨"/opt/work"⟩, ⟨"/ws/out"⟩, ⟨"/b/out"⟩, ⟨"/jetty/work"⟩, ⟨"/ws/target/tomcat/work"⟩, ⟨"/ws/build/jsp"⟩,
        ⟨"/b/target/tomcat/work"⟩, ⟨"/b/build/jsp"⟩] := by
  obtain ⟨-, -, hroot, hweb, hwork, hwebs, hworks, hroots, -⟩ :=
    directories_in_order Sample.shared Sample.engine Sample.twoRoots
  obtain ⟨hwebRoots, hworkDirs⟩ := hroots _ Sample.repeats_root
  refine ⟨hroot ⟨"/b"⟩ (by decide), hweb ⟨"/srv/web"⟩ (by decide) (by decide +kernel),
    hwork ⟨"/opt/work"⟩ (by decide) (by decide +kernel), hwebs _ Sample.repeats_webRoot,
    hworks _ Sample.repeats_workDir, ?_, ?_⟩
  · rw [hwebRoots]
    decide +kernel
  · rw [hworkDirs]
    decide +kernel

end DebugSettings

end TemplateDebug
