import TemplateDebug.Proofs.Settings.Fields
import TemplateDebug.Settings.Error
/-!
# Objects of debug settings

Which objects are debug settings, and what they set. A setting may be given under its name or under the camel-case form
of its name.
-/

namespace TemplateDebug

/-! ## Names and kinds -/

/-- The words that underscores part, joined; each but the first begins with a capital. -/
def camelChars : List Char → List Char
  | '_' :: c :: rest => c.toUpper :: camelChars rest
  | c :: rest => c :: camelChars rest
  | [] => []

def camelCase (name : String) : String := String.ofList (camelChars name.toList)

/-- The key is the name or its camel-case form. -/
def Spells (key name : String) : Prop := key = name ∨ key = camelCase name

instance (key name : String) : Decidable (Spells key name) := inferInstanceAs (Decidable (_ ∨ _))

inductive SettingKind where
  | flag
  | texts
  | word
  deriving DecidableEq, Repr

/-- The value is of the kind. -/
def SettingKind.Fits : SettingKind → Json → Prop
  | flag, j => ∃ b, j = .bool b
  | texts, j => ∃ ts : List String, j = .arr (ts.map .str)
  | word, j => ∃ n : Nat, n < wordBound ∧ j = .int n

/-- The debug settings, with the kinds of their values. -/
def debugKinds : List (String × SettingKind) := [
  ("enabled", .flag), ("verbose", .flag), ("web_roots", .texts), ("compiled_cache_max_entries", .word),
  ("compiled_cache_debounce_ms", .word), ("resolved_path_ttl_ms", .word), ("work_dirs", .texts),
  ("use_default_work_dirs", .flag), ("max_scan_files", .word), ("discovery_ttl_ms", .word)]

/-- What the members give for a setting. -/
def given? (members : List (String × Json)) (name : String) : Option Json :=
  (members.find? fun m => Spells m.1 name).map Prod.snd

/-- As an integer, the value is below 2^64. -/
def Json.IsWord (j : Json) : Prop := ∀ n : Int, j = .int n → n < wordBound

variable {σ : Type} {name key : String} {alternative : Option String} {members : List (String × Json)}

/-- The field is the setting. -/
structure Describes (f : Field σ) (setting : String × SettingKind) : Prop where
  name_eq : f.name = setting.1
  spells_iff : ∀ key, key ∈ Section.spellings f ↔ Spells key setting.1
  faithful : f.kind.Faithful
  fits_iff : ∀ j : Json, j.IsWord → ((∃ v, f.kind.view v = j) ↔ setting.2.Fits j)

theorem mem_spellings_iff {f : Field σ} (h : f.alternative.getD f.name = camelCase f.name) :
    key ∈ Section.spellings f ↔ Spells key f.name := by
  unfold Section.spellings Spells
  cases ha : f.alternative with
  | none =>
    rw [ha, Option.getD_none] at h
    rw [← h]
    simp
  | some other =>
    rw [ha, Option.getD_some] at h
    rw [h]
    simp [or_comm]

theorem describes_flag {get : σ → Bool} {set : Bool → σ → σ} {default : Bool}
    (h : alternative.getD name = camelCase name) :
    Describes ⟨name, alternative, .flag, get, set, default⟩ (name, .flag) where
  name_eq := rfl
  spells_iff _ := mem_spellings_iff h
  faithful := ValueKind.flag_faithful
  fits_iff _ _ := exists_congr fun _ => eq_comm

theorem describes_paths {get : σ → List Path} {set : List Path → σ → σ} {default : List Path}
    (h : alternative.getD name = camelCase name) :
    Describes ⟨name, alternative, .paths, get, set, default⟩ (name, .texts) where
  name_eq := rfl
  spells_iff _ := mem_spellings_iff h
  faithful := ValueKind.paths_faithful
  fits_iff j _ := by
    constructor
    · rintro ⟨ps, rfl⟩
      exact ⟨ps.map Path.text, by simp [ValueKind.paths, ValueKind.pathsJson]⟩
    · rintro ⟨ts, rfl⟩
      exact ⟨ts.map Path.mk, by simp [ValueKind.paths, ValueKind.pathsJson]⟩

theorem describes_natural {expected : Expected} {get : σ → Nat} {set : Nat → σ → σ} {default : Nat}
    (h : alternative.getD name = camelCase name) :
    Describes ⟨name, alternative, .natural expected, get, set, default⟩ (name, .word) where
  name_eq := rfl
  spells_iff _ := mem_spellings_iff h
  faithful := ValueKind.natural_faithful expected
  fits_iff j hj := by
    constructor
    · rintro ⟨n, rfl⟩
      exact ⟨n, Int.ofNat_lt.1 (hj n rfl), rfl⟩
    · rintro ⟨n, -, rfl⟩
      exact ⟨n, rfl⟩

theorem described : List.Forall₂ Describes DebugSettings.section.fields debugKinds :=
  .cons (describes_flag (by decide)) <| .cons (describes_flag (by decide)) <|
  .cons (describes_paths (by decide)) <| .cons (describes_natural (by decide)) <|
  .cons (describes_natural (by decide)) <| .cons (describes_natural (by decide)) <|
  .cons (describes_paths (by decide)) <| .cons (describes_flag (by decide)) <|
  .cons (describes_natural (by decide)) <| .cons (describes_natural (by decide)) .nil

/-- Every setting is kept in a field. -/
theorem exists_field {setting : String × SettingKind} (h : setting ∈ debugKinds) :
    ∃ f ∈ DebugSettings.section.fields, Describes f setting :=
  exists_mem_of_forall₂ described h

namespace DebugSettings

variable {s : DebugSettings}

theorem load_obj_eq_ok_iff :
    load (.obj members) = .ok s ↔ DebugSettings.section.readMembers [] {} (Document.ofJsonMembers members) = .ok s := by
  change (DebugSettings.section.readMembers [] {} (Document.ofJsonMembers members)).mapError _ = .ok s ↔ _
  cases DebugSettings.section.readMembers [] {} (Document.ofJsonMembers members) <;> simp [Except.mapError]

theorem takes_iff {m : String × Json} (hm : m.2.IsWord) :
    DebugSettings.section.Takes [] (m.1, .ofJson m.2) ↔ ∃ k ∈ debugKinds, Spells m.1 k.1 ∧ k.2.Fits m.2 := by
  refine exists_mem_iff_of_forall₂ described fun f k hfk => ?_
  rw [hfk.spells_iff, hfk.faithful.reads_iff, hfk.fits_iff _ hm]
  simp

theorem once_iff :
    DebugSettings.section.Once (Document.ofJsonMembers members) ↔
      members.Pairwise fun a b => ∀ k ∈ debugKinds, Spells a.1 k.1 → ¬ Spells b.1 k.1 := by
  rw [Section.Once, Section.ofJsonMembers_eq_map, List.pairwise_map]
  refine List.Pairwise.iff fun a b => forall_mem_iff_of_forall₂ described fun f k hfk => ?_
  rw [hfk.spells_iff, hfk.spells_iff]

theorem load_obj_isOk_iff (hwords : ∀ m ∈ members, m.2.IsWord) :
    (∃ s, load (.obj members) = .ok s) ↔
      (∀ m ∈ members, ∃ k ∈ debugKinds, Spells m.1 k.1 ∧ k.2.Fits m.2) ∧
        members.Pairwise fun a b => ∀ k ∈ debugKinds, Spells a.1 k.1 → ¬ Spells b.1 k.1 := by
  simp only [load_obj_eq_ok_iff]
  rw [section_lawful.readMembers_isOk_iff, once_iff, Section.ofJsonMembers_eq_map, List.forall_mem_map]
  refine and_congr_left' (forall₂_congr fun m hm => takes_iff (hwords m hm))

/-- What is loaded has the settings that are given, and the default of the others. -/
theorem get?_of_load (h : load (.obj members) = .ok s) {setting : String × SettingKind} (hs : setting ∈ debugKinds) :
    s.toJson.get? setting.1 = (given? members setting.1).or ((toJson {}).get? setting.1) := by
  obtain ⟨f, hf, hfs⟩ := exists_field hs
  have hgives := section_lawful.gives_of_readMembers (load_obj_eq_ok_iff.1 h)
  rw [Section.ofJsonMembers_eq_map] at hgives
  rw [← hfs.name_eq, toJson, toJson, section_lawful.get?_toJson hf, section_lawful.get?_toJson hf, get_default f hf,
    given?]
  cases hm : members.find? fun m => Spells m.1 f.name with
  | some m =>
    have hmem := List.mem_of_find?_eq_some hm
    have hspelled : Spells m.1 f.name := by simpa using List.find?_some hm
    rw [hfs.name_eq, ← hfs.spells_iff] at hspelled
    have hread := hgives.read (m.1, .ofJson m.2) (List.mem_map.2 ⟨m, hmem, rfl⟩) f hf hspelled
    exact congrArg some (hfs.faithful.view_of_read hread)
  | none =>
    have hnone : ∀ m ∈ members.map fun m => (m.1, Document.ofJson m.2), m.1 ∉ Section.spellings f := by
      intro m hm' hspelled
      obtain ⟨m, hmem, rfl⟩ := List.mem_map.1 hm'
      have := List.find?_eq_none.1 hm m hmem
      rw [hfs.name_eq, decide_eq_true_eq] at this
      exact this ((hfs.spells_iff _).1 hspelled)
    rw [hgives.default f hf List.not_mem_nil hnone]
    rfl

theorem sameField_of_spells {a b : String} (h : b = a ∨ ∃ k ∈ debugKinds, Spells a k.1 ∧ Spells b k.1) :
    DebugSettings.section.SameField a b := by
  rcases h with rfl | ⟨k, hk, ha, hb⟩
  · exact fun f _ => Iff.rfl
  · obtain ⟨f, hf, hfk⟩ := exists_field hk
    rw [← hfk.spells_iff] at ha hb
    intro g hg
    constructor
    · exact fun hga => section_lawful.eq_of_spelled hf hg ha hga ▸ hb
    · exact fun hgb => section_lawful.eq_of_spelled hf hg hb hgb ▸ ha

/-- Another spelling of a setting sets the same. -/
theorem load_renamed_iff {rename : String → String}
    (hrename : ∀ m ∈ members, rename m.1 = m.1 ∨ ∃ k ∈ debugKinds, Spells m.1 k.1 ∧ Spells (rename m.1) k.1)
    (hnodup : (members.map fun m => rename m.1).Nodup) :
    load (.ofMembers (members.map fun m => (rename m.1, m.2))) = .ok s ↔ load (.obj members) = .ok s := by
  have hkeys : ((members.map fun m => (rename m.1, m.2)).map Prod.fst).Nodup := by rwa [List.map_map]
  obtain ⟨listed, hlisted, hperm⟩ := Json.ofMembers_perm hkeys
  have hsame : ∀ m ∈ Document.ofJsonMembers members, DebugSettings.section.SameField m.1 (rename m.1) := by
    rw [Section.ofJsonMembers_eq_map, List.forall_mem_map]
    exact fun m hm => sameField_of_spells (hrename m hm)
  have hrenamed : (Document.ofJsonMembers listed).Perm
      ((Document.ofJsonMembers members).map fun m => (rename m.1, m.2)) := by
    rw [Section.ofJsonMembers_eq_map, Section.ofJsonMembers_eq_map, List.map_map]
    have := hperm.map fun m => (m.1, Document.ofJson m.2)
    rwa [List.map_map] at this
  rw [hlisted, load_obj_eq_ok_iff, load_obj_eq_ok_iff, section_lawful.readMembers_perm hrenamed,
    section_lawful.readMembers_map hsame]

theorem load_toJson (s : DebugSettings) : load s.toJson = .ok s := by
  have hread := section_lawful.read_toJson (fun f hf => (kinds_faithful f hf).read_view) true {} s
  rw [load, ofJson, toJson, hread]
  rfl

/-- An object is debug settings exactly if each of its keys spells a setting, no setting is given twice and each value
is of the kind of its setting. Then the settings are those given, and the default ones otherwise. Other spellings of
the keys give the same settings, and what shows settings gives them. -/
theorem load_object (members : List (String × Json)) (hwords : ∀ m ∈ members, m.2.IsWord) :
    ((∃ s, load (.obj members) = .ok s) ↔
      (∀ m ∈ members, ∃ k ∈ debugKinds, Spells m.1 k.1 ∧ k.2.Fits m.2) ∧
        members.Pairwise fun a b => ∀ k ∈ debugKinds, Spells a.1 k.1 → ¬ Spells b.1 k.1) ∧
    (∀ s, load (.obj members) = .ok s → ∀ k ∈ debugKinds,
      s.toJson.get? k.1 = (given? members k.1).or ((toJson {}).get? k.1)) ∧
    (∀ rename : String → String,
      (∀ m ∈ members, rename m.1 = m.1 ∨ ∃ k ∈ debugKinds, Spells m.1 k.1 ∧ Spells (rename m.1) k.1) →
      (members.map fun m => rename m.1).Nodup →
      ∀ s, load (.ofMembers (members.map fun m => (rename m.1, m.2))) = .ok s ↔ load (.obj members) = .ok s) ∧
    ∀ s, load (toJson s) = .ok s := by
  refine ⟨load_obj_isOk_iff hwords, ?_, ?_, load_toJson⟩
  · intro s h setting hs
    exact get?_of_load h hs
  · intro rename hrename hnodup s
    exact load_renamed_iff hrename hnodup

/-- Web roots in camel case are taken over, and other settings keep their defaults. -/
theorem load_object_webRoots :
    (∀ m ∈ [("verbose", .bool true), ("webRoots", .arr [.str "a"])], Json.IsWord m.2) ∧
    ∃ s, load (.obj [("verbose", .bool true), ("webRoots", .arr [.str "a"])]) = .ok s ∧
      s.toJson.get? "web_roots" = some (.arr [.str "a"]) ∧ s.toJson.get? "enabled" = some (.bool true) := by
  have hwords : ∀ m ∈ [("verbose", .bool true), ("webRoots", .arr [.str "a"])], Json.IsWord m.2 := by
    simp [Json.IsWord]
  obtain ⟨hok, hget, -⟩ := load_object _ hwords
  have hkinds : ∀ m ∈ [("verbose", Json.bool true), ("webRoots", .arr [.str "a"])],
      ∃ k ∈ debugKinds, Spells m.1 k.1 ∧ k.2.Fits m.2 := by
    rw [List.forall_mem_cons, List.forall_mem_singleton]
    exact ⟨⟨("verbose", .flag), by decide, by decide, true, rfl⟩,
      ⟨("web_roots", .texts), by decide, by decide, ["a"], rfl⟩⟩
  obtain ⟨s, hs⟩ := hok.2 ⟨hkinds, by decide⟩
  exact ⟨hwords, s, hs, (hget s hs ("web_roots", .texts) (by decide)).trans (by decide +kernel),
    (hget s hs ("enabled", .flag) (by decide)).trans (by decide +kernel)⟩

end DebugSettings

end TemplateDebug
