import TemplateDebug.Proofs.Path.Joined
import TemplateDebug.Proofs.Template.Reference
import TemplateDebug.Proofs.Template.Resolver
/-!
# Where references lead

A reference leads to a file below a web root, under the parts of the reference, or to itself where it is an absolute
path. The parts are names, so that a path below a web root stays below it, and a reference with a double dot is not
looked for there. The first web root that holds a file under the parts decides, and only the parts matter then.
-/

namespace TemplateDebug.Template

variable {disk : Disk} {webRoots : List Path} {ref name : String} {p : Path}

/-- The web root holds a file under the names, of which there is one at least. -/
def Holds (disk : Disk) (names : List String) (root : Path) : Prop :=
  names ≠ [] ∧ disk.isFile (root.under names) = true

/-- The path is that of the first web root that holds a file under the names, extended by them. -/
structure FoundBelow (disk : Disk) (webRoots : List Path) (names : List String) (p : Path) : Prop where
  areNames : ∀ name ∈ names, Path.IsName name
  first : ∃ before root after, webRoots = before ++ root :: after ∧ (∀ earlier ∈ before, ¬ Holds disk names earlier) ∧
    Holds disk names root ∧ p = root.under names ∧ p.components = root.components ++ names.map .normal

/-- The path is the reference itself, which is absolute and of which no web root holds anything. -/
structure FoundItself (disk : Disk) (webRoots : List Path) (ref : String) (p : Path) : Prop where
  isAbsolute : (Path.mk ref).isAbsolute = true
  eq : p = ⟨ref⟩
  nowhere : ".." ∈ parts ref ∨ ∀ root ∈ webRoots, ¬ Holds disk (parts ref) root

/-- The parts of a reference are names, but for double dots. -/
theorem isName_of_mem_parts (h : name ∈ parts ref) (hne : name ≠ "..") : Path.IsName name := by
  obtain ⟨hmem, hdot⟩ := List.mem_filter.1 h
  obtain ⟨hempty, hslash⟩ := Path.of_mem_names hmem
  exact ⟨hempty, of_decide_eq_true hdot, hne, hslash⟩

theorem placesBelow_eq (webRoots : List Path) (ref : String) : placesBelow webRoots ref =
    if parts ref = [] ∨ ".." ∈ parts ref then [] else webRoots.map (·.under (parts ref)) := by
  simp only [placesBelow, Bool.or_eq_true, List.isEmpty_iff, List.contains_iff_mem]
  rfl

/-- What is found among the places below the web roots. -/
theorem find?_placesBelow_eq_some_iff :
    (placesBelow webRoots ref).find? disk.isFile = some p ↔ FoundBelow disk webRoots (parts ref) p := by
  rw [placesBelow_eq]
  split
  · rename_i hnone
    rw [List.find?_nil]
    refine iff_of_false (by simp) ?_
    rintro ⟨hnames, _, _, _, -, -, ⟨hsome, -⟩, -⟩
    rcases hnone with hempty | hparent
    · exact hsome hempty
    · exact (hnames _ hparent).ne_parent rfl
  · rename_i hplain
    obtain ⟨hsome, hparent⟩ := not_or.1 hplain
    have hnames : ∀ name ∈ parts ref, Path.IsName name := by
      intro name hname
      apply isName_of_mem_parts hname
      rintro rfl
      exact hparent hname
    simp only [List.find?_map, Option.map_eq_some_iff, List.find?_eq_some_iff_append, Function.comp_apply,
      Bool.not_eq_true']
    constructor
    · rintro ⟨root, ⟨hfile, before, after, hsplit, hbefore⟩, rfl⟩
      refine ⟨hnames, before, root, after, hsplit, ?_, ⟨hsome, hfile⟩, rfl, Path.components_under root hnames⟩
      rintro earlier hmem ⟨-, hearlier⟩
      rw [hbefore earlier hmem] at hearlier
      cases hearlier
    · rintro ⟨-, before, root, after, hsplit, hbefore, ⟨-, hfile⟩, rfl, -⟩
      refine ⟨root, ⟨hfile, before, after, hsplit, ?_⟩, rfl⟩
      intro earlier hmem
      rw [← Bool.not_eq_true]
      exact fun hearlier => hbefore earlier hmem ⟨hsome, hearlier⟩

/-- Nothing is found there for a double dot, or just when no web root holds a file. -/
theorem find?_placesBelow_eq_none_iff :
    (placesBelow webRoots ref).find? disk.isFile = none ↔
      ".." ∈ parts ref ∨ ∀ root ∈ webRoots, ¬ Holds disk (parts ref) root := by
  rw [placesBelow_eq]
  split
  · rename_i hnone
    rw [List.find?_nil]
    refine iff_of_true rfl (hnone.symm.imp_right fun hempty root _ hholds => ?_)
    exact hholds.1 hempty
  · rename_i hplain
    obtain ⟨hsome, hparent⟩ := not_or.1 hplain
    simp only [hparent, false_or, Holds, List.find?_map, Option.map_eq_none_iff, List.find?_eq_none,
      Function.comp_apply]
    constructor
    · rintro hnone root hroot ⟨-, hfile⟩
      exact hnone root hroot hfile
    · intro hnone root hroot hfile
      exact hnone root hroot ⟨hsome, hfile⟩

theorem search_eq_some_iff :
    disk.search webRoots ref = some p ↔
      disk.isFile p = true ∧ (FoundBelow disk webRoots (parts ref) p ∨ FoundItself disk webRoots ref p) := by
  have hitself : (placeItself ref).find? disk.isFile = some p ↔
      disk.isFile p = true ∧ (Path.mk ref).isAbsolute = true ∧ p = ⟨ref⟩ := by
    unfold placeItself
    split
    · rename_i habsolute
      rw [List.find?_singleton]
      constructor
      · intro h
        split at h
        · cases h
          exact ⟨‹_›, habsolute, rfl⟩
        · cases h
      · rintro ⟨hfile, -, rfl⟩
        exact if_pos hfile
    · rename_i hrelative
      exact iff_of_false (by simp) fun h => hrelative h.2.1
  rw [Disk.search, places, List.find?_append, Option.or_eq_some_iff, find?_placesBelow_eq_some_iff,
    find?_placesBelow_eq_none_iff, hitself]
  constructor
  · rintro (hbelow | ⟨hnowhere, hfile, habsolute, heq⟩)
    · obtain ⟨_, root, _, -, -, ⟨-, hfile⟩, rfl, -⟩ := hbelow.first
      exact ⟨hfile, .inl hbelow⟩
    · exact ⟨hfile, .inr ⟨habsolute, heq, hnowhere⟩⟩
  · rintro ⟨hfile, hbelow | ⟨habsolute, heq, hnowhere⟩⟩
    · exact .inl hbelow
    · exact .inr ⟨hnowhere, hfile, habsolute, heq⟩

/-- A file that is found below a web root is found for every reference with the same parts. -/
theorem search_of_foundBelow (h : FoundBelow disk webRoots (parts ref) p) : disk.search webRoots ref = some p := by
  obtain ⟨_, root, _, -, -, ⟨-, hfile⟩, rfl, -⟩ := h.first
  exact search_eq_some_iff.2 ⟨hfile, .inl h⟩

/-- The answer of a resolver that has been asked nothing before. -/
def Resolver.firstAnswer (disk : Disk) (webRoots : List Path) (ttl : Nat) (clock : Clock) (ref : String) :
    Option Path :=
  ((Resolver.new webRoots ttl).resolve disk.tickingHost ref clock).1.1

theorem Resolver.firstAnswer_eq (disk : Disk) (webRoots : List Path) (ttl : Nat) (clock : Clock) (ref : String) :
    firstAnswer disk webRoots ttl clock ref = disk.search webRoots ref :=
  (resolve_current (current_new disk webRoots ttl) clock).1

/-- A reference leads to a regular file: that of the first web root that holds one under its parts, or the reference
itself, if this is an absolute path and no web root holds anything of it. A double dot never leads through a web root,
and where one web root has a file all references with the same parts lead to it. -/
theorem resolved_below_or_itself (disk : Disk) (webRoots : List Path) (ttl : Nat) (clock : Clock) (ref : String) :
    (∀ p, Resolver.firstAnswer disk webRoots ttl clock ref = some p ↔
        disk.isFile p = true ∧ (FoundBelow disk webRoots (parts ref) p ∨ FoundItself disk webRoots ref p)) ∧
      (".." ∈ parts ref → ∀ p, ¬ FoundBelow disk webRoots (parts ref) p) ∧
      ∀ ref' p, parts ref' = parts ref → FoundBelow disk webRoots (parts ref) p →
        Resolver.firstAnswer disk webRoots ttl clock ref' = Resolver.firstAnswer disk webRoots ttl clock ref := by
  refine ⟨?_, ?_, ?_⟩
  · intro p
    rw [Resolver.firstAnswer_eq, search_eq_some_iff]
  · intro hparent p hbelow
    exact (hbelow.areNames _ hparent).ne_parent rfl
  · intro ref' p hparts hbelow
    rw [Resolver.firstAnswer_eq, Resolver.firstAnswer_eq, search_of_foundBelow hbelow,
      search_of_foundBelow (hparts ▸ hbelow)]

namespace Sample

/-- Two web roots, both with the file `x/a.jsp`, and a file outside. -/
def twoRoots : Disk :=
  let page : Node := .file { identity := ⟨1, 1⟩, modified := ⟨0, 0⟩, bytes := [] }
  ⟨.dir [("one", .dir [("x", .dir [("a.jsp", page)])]), ("out.jsp", page),
    ("two", .dir [("x", .dir [("a.jsp", page)])])], [], ⟨1, 10⟩⟩

end Sample

/-- The first web root decides, however the reference is spelled; a file outside is found by its own path alone. -/
theorem resolved_below_or_itself_twoRoots :
    Resolver.firstAnswer Sample.twoRoots [⟨"/two"⟩, ⟨"/one"⟩] 0 (Stream'.const 0) ".\\x//a.jsp" =
        some ⟨"/two/x/a.jsp"⟩ ∧
      Resolver.firstAnswer Sample.twoRoots [⟨"/two"⟩, ⟨"/one"⟩] 0 (Stream'.const 0) "/two/../out.jsp" =
        some ⟨"/two/../out.jsp"⟩ := by
  constructor
  · have hbelow : FoundBelow Sample.twoRoots [⟨"/two"⟩, ⟨"/one"⟩] (parts "x/a.jsp") ⟨"/two/x/a.jsp"⟩ :=
      find?_placesBelow_eq_some_iff.1 (by decide +kernel)
    have hparts : parts ".\\x//a.jsp" = parts "x/a.jsp" := by
      simp only [parts, toList_slashed]
      decide +kernel
    obtain ⟨hiff, -, hsame⟩ :=
      resolved_below_or_itself Sample.twoRoots [⟨"/two"⟩, ⟨"/one"⟩] 0 (Stream'.const 0) "x/a.jsp"
    rw [hsame ".\\x//a.jsp" _ hparts hbelow, hiff]
    exact ⟨by decide +kernel, .inl hbelow⟩
  · obtain ⟨hiff, -, -⟩ :=
      resolved_below_or_itself Sample.twoRoots [⟨"/two"⟩, ⟨"/one"⟩] 0 (Stream'.const 0) "/two/../out.jsp"
    rw [hiff]
    exact ⟨by decide +kernel, .inr ⟨by decide +kernel, rfl, .inl (by decide +kernel)⟩⟩

end TemplateDebug.Template
