import TemplateDebug.Proofs.Settings.Section
/-!
# The settings as sections

The kinds of values read what they show, and the fields of each section describe all of its settings. Whatever settings
there are, what shows them is read as them.
-/

namespace TemplateDebug

namespace ValueKind

theorem flag_faithful : flag.Faithful where
  read_view _ := rfl
  view_of_read {j v} h := by
    cases j with
    | bool b =>
      cases h
      rfl
    | _ => cases h

theorem text_faithful : text.Faithful where
  read_view _ := rfl
  view_of_read {j v} h := by
    cases j with
    | str t =>
      cases h
      rfl
    | _ => cases h

theorem optionalPath_faithful : optionalPath.Faithful where
  read_view v := by cases v <;> rfl
  view_of_read {j v} h := by
    cases j with
    | null =>
      cases h
      rfl
    | str t =>
      cases h
      rfl
    | _ => cases h

theorem natural_faithful (expected : Expected) : (natural expected).Faithful where
  read_view _ := rfl
  view_of_read {j v} h := by
    cases j with
    | int n => cases n with
      | ofNat n =>
        cases h
        rfl
      | negSucc n => cases h
    | _ => cases h

theorem pathItems?_view (ps : List Path) :
    Document.pathItems? (Document.ofJsonItems (ps.map fun p => .str p.text)) = .ok ps := by
  induction ps with
  | nil => rfl
  | cons p ps ih =>
    rw [List.map_cons, Document.ofJsonItems, Document.pathItems?, ih]
    rfl

theorem view_of_pathItems? {js : List Json} {ps : List Path}
    (h : Document.pathItems? (Document.ofJsonItems js) = .ok ps) : ps.map (fun p => .str p.text) = js := by
  induction js generalizing ps with
  | nil =>
    cases h
    rfl
  | cons j js ih =>
    rw [Document.ofJsonItems, Document.pathItems?] at h
    cases j with
    | str t =>
      cases hrest : Document.pathItems? (Document.ofJsonItems js) with
      | error e =>
        rw [hrest] at h
        cases h
      | ok rest =>
        rw [hrest] at h
        cases h
        rw [List.map_cons, ih hrest]
    | _ => cases h

theorem paths_faithful : paths.Faithful where
  read_view := pathItems?_view
  view_of_read {j v} h := by
    cases j with
    | arr js => exact congrArg Json.arr (view_of_pathItems? h)
    | _ => cases h

end ValueKind

/-! ## The sections -/

theorem DebugSettings.section_lawful : DebugSettings.section.Lawful where
  keys_nodup := by decide
  get_set := by simp [DebugSettings.section]
  get_set_of_name_ne := by simp [DebugSettings.section]
  ext a b h := by
    simp only [DebugSettings.section, List.forall_mem_cons] at h
    obtain ⟨h1, h2, h3, h4, h5, h6, h7, h8, h9, h10, -⟩ := h
    cases a
    cases b
    congr 1

theorem LoggingSettings.section_lawful : LoggingSettings.section.Lawful where
  keys_nodup := by decide
  get_set := by simp [LoggingSettings.section]
  get_set_of_name_ne := by simp [LoggingSettings.section]
  ext a b h := by
    simp only [LoggingSettings.section, List.forall_mem_cons] at h
    obtain ⟨h1, h2, h3, h4, -⟩ := h
    cases a
    cases b
    congr 1

theorem Settings.section_lawful : Settings.section.Lawful where
  keys_nodup := by decide
  get_set := by simp [Settings.section]
  get_set_of_name_ne := by simp [Settings.section]
  ext a b h := by
    simp only [Settings.section, List.forall_mem_cons] at h
    obtain ⟨h1, h2, -⟩ := h
    cases a
    cases b
    congr 1

/-! ## Defaults -/

/-- The debug settings that hold when nothing is set have the default of each field. -/
theorem DebugSettings.get_default : ∀ f ∈ DebugSettings.section.fields, f.get {} = f.default := by
  simp [DebugSettings.section]

theorem LoggingSettings.get_default : ∀ f ∈ LoggingSettings.section.fields, f.get {} = f.default := by
  simp [LoggingSettings.section]

theorem Settings.get_default : ∀ f ∈ Settings.section.fields, f.get {} = f.default := by
  simp [Settings.section]

/-! ## What shows settings -/

theorem DebugSettings.kinds_faithful : ∀ f ∈ DebugSettings.section.fields, f.kind.Faithful := by
  simp [DebugSettings.section, ValueKind.flag_faithful, ValueKind.natural_faithful, ValueKind.paths_faithful]

theorem LoggingSettings.kinds_faithful : ∀ f ∈ LoggingSettings.section.fields, f.kind.Faithful := by
  simp [LoggingSettings.section, ValueKind.flag_faithful, ValueKind.text_faithful, ValueKind.optionalPath_faithful]

/-- What shows the value of a section is read as this value. -/
theorem ValueKind.ofSection_read_view {σ : Type} {s : Section σ} (h : s.Lawful)
    (hkinds : ∀ f ∈ s.fields, f.kind.Faithful) (start v : σ) :
    (ofSection s start).read (.ofJson ((ofSection s start).view v)) = .ok v :=
  h.read_toJson (fun f hf => (hkinds f hf).read_view) false start v

/-- A document of settings that shows `s` gives `s`. -/
theorem Settings.ofDocument_toJson (s : Settings) : ofDocument (.ofJson s.toJson) = .ok s := by
  refine section_lawful.read_toJson ?_ false {} s
  simp only [Settings.section, List.forall_mem_cons]
  exact ⟨ValueKind.ofSection_read_view DebugSettings.section_lawful DebugSettings.kinds_faithful {},
    ValueKind.ofSection_read_view LoggingSettings.section_lawful LoggingSettings.kinds_faithful {},
    fun _ h => absurd h List.not_mem_nil⟩

end TemplateDebug
