import TemplateDebug.Proofs.Template.Search
/-!
# Spellings that lead back

The spellings of a template below a web root are its names there, between slashes and with or without one in front.
Each of them leads to the first web root that holds a file under these names, and so back to the template or to a file
of an earlier web root; unless the web root is spelled so long that the file system refuses the path below it.
-/

namespace TemplateDebug

namespace Path

variable {base p : Path} {cs rest : List Component} {ns : List String} {s : String}

theorem stripPrefix?_eq_some_iff {cs' : List Component} :
    stripPrefix? cs cs' = some rest ↔ cs' = cs ++ rest := by
  induction cs generalizing cs' with
  | nil => simp [stripPrefix?, eq_comm]
  | cons c cs ih =>
    cases cs' with
    | nil => simp [stripPrefix?]
    | cons c' cs' =>
      rw [stripPrefix?]
      split
      · rename_i heq
        rw [ih, heq, List.cons_append, List.cons_inj_right]
      · rename_i hne
        simp [eq_comm, hne]

/-- The name of a normal component. -/
def nameOf? : Component → Option String
  | .normal name => some name
  | _ => none

theorem mapM_nameOf?_eq_some_iff : cs.mapM nameOf? = some ns ↔ cs = ns.map .normal := by
  induction cs generalizing ns with
  | nil => simp [eq_comm]
  | cons c cs ih =>
    cases c with
    | root | here | parent => cases ns <;> simp [List.mapM_cons, nameOf?]
    | normal name =>
      rw [List.mapM_cons]
      cases ns with
      | nil => cases cs.mapM nameOf? <;> simp [nameOf?]
      | cons first ns =>
        rw [List.map_cons, List.cons.injEq, ← ih]
        cases cs.mapM nameOf? <;> simp [nameOf?]

/-- The text of normal components: their names between slashes. -/
theorem slashed?_eq_some_iff :
    slashed? cs = some s ↔ ∃ ns, ns ≠ [] ∧ cs = ns.map .normal ∧ s = "/".intercalate ns := by
  simp only [← mapM_nameOf?_eq_some_iff]
  unfold slashed?
  dsimp only
  split
  · rename_i hnames
    replace hnames : cs.mapM nameOf? = none := hnames
    simp [hnames]
  · rename_i hnames
    replace hnames : cs.mapM nameOf? = some [] := hnames
    simp [hnames]
  · rename_i names hne hnames
    replace hnames : cs.mapM nameOf? = some names := hnames
    rw [hnames, Option.some.injEq]
    constructor
    · rintro rfl
      exact ⟨names, hne, rfl, rfl⟩
    · rintro ⟨ns, -, hns, rfl⟩
      cases hns
      rfl

/-- The path lies below the base, under these names. -/
structure LiesUnder (base : Path) (ns : List String) (p : Path) : Prop where
  ne_nil : ns ≠ []
  components : p.components = base.components ++ ns.map .normal

theorem LiesUnder.isName (h : LiesUnder base ns p) : ∀ name ∈ ns, IsName name := by
  intro name hname
  apply isName_of_mem_components (p := p)
  rw [h.components]
  exact List.mem_append_right _ (List.mem_map_of_mem hname)

/-- The base joined with the names leads back to the path. -/
theorem LiesUnder.components_join (h : LiesUnder base ns p) :
    (base.join ("/".intercalate ns)).components = p.components := by
  rw [← under_eq_join base h.ne_nil h.isName, components_under base h.isName, h.components]

/-- Names make a path no shorter. -/
theorem utf8ByteSize_le_under (p : Path) (h : ∀ name ∈ ns, IsName name) :
    p.text.utf8ByteSize ≤ (p.under ns).text.utf8ByteSize := by
  induction ns using List.reverseRecOn with
  | nil => exact Nat.le_refl _
  | append_singleton ns name ih =>
    rw [List.forall_mem_append] at h
    have hstep : (p.under ns).text.utf8ByteSize ≤ ((p.under ns).join name).text.utf8ByteSize := by
      rcases join_cases (p.under ns) (h.2 name (List.mem_singleton_self name)).head?_ne with
        ⟨hempty, -⟩ | ⟨-, -, hjoin⟩ | ⟨-, hjoin⟩
      · simp [hempty]
      · simp [hjoin, String.utf8ByteSize_append]
      · simp [hjoin, String.utf8ByteSize_append, Nat.add_assoc]
    rw [under_concat]
    exact Nat.le_trans (ih h.1) hstep

end Path

namespace Template

variable {disk : Disk} {template root : Path} {webRoots before after : List Path} {refs ns : List String}
  {ref rel : String}

/-! ## The list of references -/

theorem below?_eq_some_iff :
    below? template root = some rel ↔ ∃ ns, Path.LiesUnder root ns template ∧ rel = "/".intercalate ns := by
  simp only [below?, Option.bind_eq_some_iff, Path.stripPrefix?_eq_some_iff, Path.slashed?_eq_some_iff]
  constructor
  · rintro ⟨_, hcomponents, ns, hne, rfl, hrel⟩
    exact ⟨ns, ⟨hne, hcomponents⟩, hrel⟩
  · rintro ⟨ns, ⟨hne, hcomponents⟩, hrel⟩
    exact ⟨_, hcomponents, ns, hne, rfl, hrel⟩

/-- The template lies below the web root as `rel`, and the reference is this, with a slash in front or without. -/
structure IsSpelling (template root : Path) (rel ref : String) : Prop where
  lies : ∃ ns, Path.LiesUnder root ns template ∧ rel = "/".intercalate ns
  slash : ref = rel ∨ ref = "/" ++ rel

theorem mem_spellings_iff :
    ref ∈ spellings template webRoots ↔ ∃ root ∈ webRoots, ∃ rel, IsSpelling template root rel ref := by
  simp only [spellings, List.mem_flatMap, List.mem_filterMap, below?_eq_some_iff, List.mem_cons, List.not_mem_nil,
    or_false]
  constructor
  · rintro ⟨rel, ⟨root, hroot, hlies⟩, hslash⟩
    exact ⟨root, hroot, rel, hlies, hslash⟩
  · rintro ⟨root, hroot, rel, hlies, hslash⟩
    exact ⟨rel, ⟨root, hroot, hlies⟩, hslash⟩

/-! ## The way back -/

/-- The parts of a spelling are the names it is made of. -/
theorem parts_spelling (hnames : ∀ name ∈ ns, Path.IsName name) (hback : ∀ name ∈ ns, '\\' ∉ name.toList) :
    parts ("/".intercalate ns) = ns ∧ parts ("/" ++ "/".intercalate ns) = ns := by
  have hplain : '\\' ∉ ("/".intercalate ns).toList := by
    rw [← Path.mem_names (by decide), Path.names_intercalate hnames]
    rintro ⟨name, hmem, hin⟩
    exact hback name hmem hin
  have hplain' : '\\' ∉ ("/" ++ "/".intercalate ns).toList := by
    rw [String.toList_append, List.mem_append]
    rintro (hslash | hin)
    · revert hslash
      decide
    · exact hplain hin
  have hdots : ns.filter (· ≠ ".") = ns := by
    rw [List.filter_eq_self]
    intro name hmem
    exact decide_eq_true (hnames name hmem).ne_here
  constructor
  · rw [parts, slashed_eq_self hplain, Path.names_intercalate hnames, hdots]
  · rw [parts, slashed_eq_self hplain', String.toList_append, show "/".toList = [] ++ ['/'] from rfl, List.append_assoc,
      List.singleton_append, Path.names_append_slash, Path.names_intercalate hnames, show Path.names [] = [] from rfl,
      List.nil_append, hdots]

/-- The template is found again below the web root that it lies under, unless the path is too long there. -/
theorem isFile_join (hfile : disk.isFile template = true) (hunder : Path.LiesUnder root ns template)
    (hfit : (root.join ("/".intercalate ns)).text.utf8ByteSize ≤ 4095) :
    disk.isFile (root.join ("/".intercalate ns)) = true := by
  have hnames : (root.join ("/".intercalate ns)).NamesFile := by
    rw [← Path.under_eq_join root hunder.ne_nil hunder.isName] at hfit ⊢
    exact Path.namesFile_under root hunder.ne_nil hunder.isName hfit
  rw [Disk.isFile_congr hunder.components_join hnames (Disk.namesFile_of_isFile hfile), hfile]

/-- What the parts of a reference lead to, where some web root holds a file under them. -/
theorem search_first (hparts : parts ref = ns) (hne : ns ≠ []) (hnames : ∀ name ∈ ns, Path.IsName name)
    (hholds : disk.isFile (root.join ("/".intercalate ns)) = true) :
    ∃ found, (before ++ [root]).find? (fun r => disk.isFile (r.join ("/".intercalate ns))) = some found ∧
      disk.search (before ++ root :: after) ref = some (found.join ("/".intercalate ns)) := by
  obtain ⟨found, hfound⟩ : ∃ found,
      (before ++ [root]).find? (fun r => disk.isFile (r.join ("/".intercalate ns))) = some found := by
    rw [← Option.isSome_iff_exists, List.find?_isSome]
    exact ⟨root, by simp, hholds⟩
  refine ⟨found, hfound, ?_⟩
  -- the search goes on to web roots behind `root`, but does not come to them
  obtain ⟨hfile, front, back, hsplit, hfront⟩ := List.find?_eq_some_iff_append.1 hfound
  have hwhole : before ++ root :: after = front ++ found :: (back ++ after) := by
    rw [← List.cons_append, ← List.append_assoc, ← hsplit]
    simp
  rw [← Path.under_eq_join found hne hnames] at hfile ⊢
  apply search_of_foundBelow
  rw [hparts]
  refine ⟨hnames, front, found, back ++ after, hwhole, ?_, ⟨hne, hfile⟩, rfl, Path.components_under found hnames⟩
  rintro earlier hmem ⟨-, hearlier⟩
  rw [Path.under_eq_join earlier hne hnames] at hearlier
  simpa [hearlier] using hfront earlier hmem

/-- The spellings of a file are among its references, and each of them leads below the first web root that holds a file
there: this is the file itself, if the web root is the one that it was spelled below. Every reference is a spelling or
the file name, each stands once, and they depend on the components alone. -/
theorem spelled_and_found (disk : Disk) (template : Path) (webRoots : List Path) (ttl : Nat) (clock : Clock)
    (hfile : disk.isFile template = true)
    (hback : ∀ name, .normal name ∈ template.components → '\\' ∉ name.toList) :
    (∀ before root after rel ref, webRoots = before ++ root :: after → IsSpelling template root rel ref →
        ref ∈ plausibleRefs template webRoots ∧
          ((root.join rel).text.utf8ByteSize ≤ 4095 →
            ∃ found, (before ++ [root]).find? (fun r => disk.isFile (r.join rel)) = some found ∧
              Resolver.firstAnswer disk webRoots ttl clock ref = some (found.join rel)) ∧
          (root.join rel).components = template.components) ∧
      (∀ ref ∈ plausibleRefs template webRoots,
        (∃ root ∈ webRoots, ∃ rel, IsSpelling template root rel ref) ∨ template.fileName? = some ref) ∧
      (plausibleRefs template webRoots).Nodup ∧
      ∀ template' : Path, template'.components = template.components →
        plausibleRefs template' webRoots = plausibleRefs template webRoots := by
  refine ⟨?_, ?_, nodup_plausibleRefs template webRoots, fun _ h => plausibleRefs_congr h webRoots⟩
  · rintro before root after rel ref rfl hspelling
    obtain ⟨⟨ns, hunder, rfl⟩, hslash⟩ := hspelling
    refine ⟨?_, ?_, hunder.components_join⟩
    · rw [mem_plausibleRefs_iff, List.mem_append, mem_spellings_iff]
      exact .inl ⟨root, by simp, _, ⟨ns, hunder, rfl⟩, hslash⟩
    · intro hfit
      have hplain : ∀ name ∈ ns, '\\' ∉ name.toList := by
        intro name hname
        apply hback
        rw [hunder.components]
        exact List.mem_append_right _ (List.mem_map_of_mem hname)
      have hparts : parts ref = ns := by
        obtain ⟨hbare, hslashed⟩ := parts_spelling hunder.isName hplain
        rcases hslash with rfl | rfl
        · exact hbare
        · exact hslashed
      rw [Resolver.firstAnswer_eq]
      exact search_first hparts hunder.ne_nil hunder.isName (isFile_join hfile hunder hfit)
  · intro ref href
    rwa [mem_plausibleRefs_iff, List.mem_append, mem_spellings_iff, Option.mem_toList] at href

namespace Sample

/-- The first of the two web roots, with so many slashes in front that no path below it is short enough. -/
def farRoot : Path := ⟨Path.slashes 4095 ++ "/one"⟩

theorem components_page :
    Path.components ⟨"/one/x/a.jsp"⟩ = Path.components ⟨"/one"⟩ ++ ["x", "a.jsp"].map .normal := by
  decide +kernel

theorem isSpelling_page {root : Path} (hroot : root.components = Path.components ⟨"/one"⟩) :
    IsSpelling ⟨"/one/x/a.jsp"⟩ root "x/a.jsp" "/x/a.jsp" :=
  ⟨⟨["x", "a.jsp"], ⟨by decide, hroot ▸ components_page⟩, by decide +kernel⟩, .inr rfl⟩

theorem noBackslash_page : ∀ name, .normal name ∈ Path.components ⟨"/one/x/a.jsp"⟩ → '\\' ∉ name.toList := by
  rw [components_page, show Path.components ⟨"/one"⟩ = [.root, .normal "one"] by decide +kernel]
  simp

end Sample

/-- Of two web roots with a file of this name the first one decides. -/
theorem spelled_and_found_twoRoots :
    Resolver.firstAnswer Sample.twoRoots [⟨"/two"⟩, ⟨"/one"⟩] 0 (Stream'.const 0) "/x/a.jsp" =
      some ⟨"/two/x/a.jsp"⟩ := by
  obtain ⟨hfound, -⟩ := spelled_and_found Sample.twoRoots ⟨"/one/x/a.jsp"⟩ [⟨"/two"⟩, ⟨"/one"⟩] 0 (Stream'.const 0)
    (by decide +kernel) Sample.noBackslash_page
  obtain ⟨-, hleads, -⟩ := hfound [⟨"/two"⟩] ⟨"/one"⟩ [] "x/a.jsp" "/x/a.jsp" rfl (Sample.isSpelling_page rfl)
  obtain ⟨found, hfirst, hanswer⟩ := hleads (by decide +kernel)
  have htwo : [Path.mk "/two", ⟨"/one"⟩].find? (fun r => Sample.twoRoots.isFile (r.join "x/a.jsp")) =
      some ⟨"/two"⟩ := by
    decide +kernel
  obtain rfl : found = ⟨"/two"⟩ := Option.some.inj (hfirst.symm.trans htwo)
  rw [hanswer]
  decide +kernel

/-- A file below a web root is not found again by its spelling, if the web root is spelled too long. -/
theorem spelling_not_always_found :
    Sample.twoRoots.isFile ⟨"/one/x/a.jsp"⟩ = true ∧
      (∀ name, .normal name ∈ Path.components ⟨"/one/x/a.jsp"⟩ → '\\' ∉ name.toList) ∧
      IsSpelling ⟨"/one/x/a.jsp"⟩ Sample.farRoot "x/a.jsp" "/x/a.jsp" ∧
      Resolver.firstAnswer Sample.twoRoots [Sample.farRoot] 0 (Stream'.const 0) "/x/a.jsp" = none := by
  refine ⟨by decide +kernel, Sample.noBackslash_page, Sample.isSpelling_page ?_, ?_⟩
  · exact Path.components_slashes 4095 (p := ⟨"/one"⟩) rfl
  · rw [Resolver.firstAnswer_eq, Option.eq_none_iff_forall_ne_some]
    intro p hp
    obtain ⟨hfile, hbelow | hitself⟩ := search_eq_some_iff.1 hp
    · obtain ⟨before, root, after, hsplit, -, ⟨hne, -⟩, rfl, -⟩ := hbelow.first
      obtain rfl : root = Sample.farRoot := by
        apply List.mem_singleton.1
        rw [hsplit]
        simp
      have hlong : 4095 < Sample.farRoot.text.utf8ByteSize := by
        rw [Sample.farRoot, String.utf8ByteSize_append, Path.utf8ByteSize_slashes]
        decide
      have hunder := Path.utf8ByteSize_le_under Sample.farRoot hbelow.areNames
      obtain ⟨hfit, -⟩ := Disk.namesFile_of_isFile hfile
      omega
    · obtain rfl := hitself.eq
      revert hfile
      decide +kernel

end Template

end TemplateDebug
