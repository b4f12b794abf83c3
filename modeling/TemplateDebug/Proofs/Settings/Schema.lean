import Mathlib
import TemplateDebug.Proofs.Settings.Fields
import TemplateDebug.Proofs.Settings.Validation
import TemplateDebug.Proofs.Toml.Keys
import TemplateDebug.Settings.Load
/-!
# The schema and the loader

The documents that are valid under the schema of the settings are those that the loader takes, written in tables and
under the names of the settings, and without a cache for no sources at all.
-/

namespace TemplateDebug

/-! ## What fields take -/

theorem ofTomlMembers_eq_map (ms : Toml.Members) :
    Document.ofTomlMembers ms = ms.map fun m => (m.1, Document.ofToml m.2) := by
  induction ms with
  | nil => rfl
  | cons m ms ih => rw [Document.ofTomlMembers, ih, List.map_cons]

namespace ValueKind

/-- The value can be read as one of the kind. -/
def Reads {α : Type} (kind : ValueKind α) (t : Toml) : Prop := ∃ v, kind.read (.ofToml t) = .ok v

variable {t : Toml}

theorem reads_flag_iff : flag.Reads t ↔ ∃ b, t = .flag b := by
  unfold Reads flag
  cases t <;> simp [Document.ofToml, Document.flag?]

theorem reads_text_iff : text.Reads t ↔ ∃ s, t = .text s := by
  unfold Reads text
  cases t <;> simp [Document.ofToml, Document.text?]

theorem reads_optionalPath_iff : optionalPath.Reads t ↔ ∃ s, t = .text s := by
  unfold Reads optionalPath
  cases t <;> simp [Document.ofToml, Document.optionalPath?, Document.path?, Except.map]

theorem reads_natural_iff {expected : Expected} : (natural expected).Reads t ↔ ∃ n : Nat, t = .integer n := by
  unfold Reads natural
  cases t with
  | integer n => cases n <;> simp [Document.ofToml, Document.natural?, Int.toNat?]
  | _ => simp [Document.ofToml, Document.natural?]

theorem pathItems?_isOk_iff (items : List Toml) :
    (∃ ps, Document.pathItems? (Document.ofTomlItems items) = .ok ps) ↔ ∀ item ∈ items, ∃ s, item = .text s := by
  induction items with
  | nil => simp [Document.ofTomlItems, Document.pathItems?]
  | cons t items ih =>
    rw [List.forall_mem_cons, ← ih, Document.ofTomlItems]
    cases t with
    | text s =>
      cases hrest : Document.pathItems? (Document.ofTomlItems items) <;>
        simp [Document.ofToml, Document.pathItems?, Document.path?, hrest, bind, Except.bind, pure, Except.pure]
    | _ => simp [Document.ofToml, Document.pathItems?, Document.path?, bind, Except.bind]

theorem reads_paths_iff :
    paths.Reads t ↔ ∃ items, (t = .list items ∨ t = .tables items) ∧ ∀ item ∈ items, ∃ s, item = .text s := by
  unfold Reads paths
  cases t with
  | list items => simpa [Document.ofToml, Document.paths?] using pathItems?_isOk_iff items
  | tables items => simpa [Document.ofToml, Document.paths?] using pathItems?_isOk_iff items
  | _ => simp [Document.ofToml, Document.paths?]

end ValueKind

/-! ## Tables -/

variable {σ : Type} {s : Section σ} {f : Field σ} {p : Schema.Property} {properties : List Schema.Property}
  {C : String → Toml → Prop} {ms : Toml.Members} {start : σ} {t : Toml}

/-- The schema of the property allows what the field takes, as far as the condition holds. -/
structure Agrees (C : String → Toml → Prop) (f : Field σ) (p : Schema.Property) : Prop where
  name_eq : f.name = p.name
  validates_iff : ∀ t : Toml, t.Distinct → (Validates Schema.settings p.toJson t ↔ f.kind.Reads t ∧ C f.name t)

/-- Under the names of fields each is given once. -/
theorem Section.Lawful.once_of_names (hs : s.Lawful) (hkeys : (ms.map Prod.fst).Nodup)
    (hnames : ∀ m ∈ ms, ∃ f ∈ s.fields, f.name = m.1) : s.Once (Document.ofTomlMembers ms) := by
  rw [Section.Once, ofTomlMembers_eq_map, List.pairwise_map]
  refine (List.pairwise_map.1 hkeys).imp_of_mem ?_
  intro a b ha hb hne f hf hfa hfb
  obtain ⟨g, hg, hga⟩ := hnames a ha
  obtain ⟨g', hg', hgb⟩ := hnames b hb
  have hfg := hs.eq_of_spelled hf hg hfa (hga ▸ Section.name_mem_spellings g)
  have hfg' := hs.eq_of_spelled hf hg' hfb (hgb ▸ Section.name_mem_spellings g')
  exact hne (hga.symm.trans ((congrArg Field.name (hfg.symm.trans hfg')).trans hgb))

/-- A key that is the name of a field spells no other. -/
theorem Section.Lawful.takes_name_iff (hs : s.Lawful) (hf : f ∈ s.fields) :
    s.Takes [] (f.name, .ofToml t) ↔ f.kind.Reads t := by
  constructor
  · rintro ⟨g, hg, hspelled, -, hread⟩
    cases hs.eq_of_spelled hf hg (Section.name_mem_spellings f) hspelled
    exact hread
  · exact fun hread => ⟨f, hf, Section.name_mem_spellings f, List.not_mem_nil, hread⟩

/-- Members are valid as properties exactly if the section takes them under the names of its fields, as far as the
condition holds. -/
theorem validates_members_iff (hs : s.Lawful) (h : List.Forall₂ (Agrees C) s.fields properties)
    (hms : Toml.DistinctMembers ms) (start : σ) :
    (∀ m ∈ ms, ∃ p ∈ properties, p.name = m.1 ∧ Validates Schema.settings p.toJson m.2) ↔
      (∃ v, s.readMembers [] start (Document.ofTomlMembers ms) = .ok v) ∧
        ∀ m ∈ ms, m.1 ∈ s.fields.map Field.name ∧ C m.1 m.2 := by
  have hmember : ∀ m ∈ ms, (∃ p ∈ properties, p.name = m.1 ∧ Validates Schema.settings p.toJson m.2) ↔
      ∃ f ∈ s.fields, f.name = m.1 ∧ f.kind.Reads m.2 ∧ C m.1 m.2 := by
    intro m hm
    refine (exists_mem_iff_of_forall₂ h fun f p hfp => ?_).symm
    rw [hfp.validates_iff m.2 (hms.values m hm), ← hfp.name_eq]
    refine and_congr_right fun hname => ?_
    rw [hname]
  rw [forall₂_congr hmember, hs.readMembers_isOk_iff, ofTomlMembers_eq_map, List.forall_mem_map]
  constructor
  · intro hall
    refine ⟨⟨fun m hm => ?_, ?_⟩, fun m hm => ?_⟩
    · obtain ⟨f, hf, hname, hread, -⟩ := hall m hm
      exact hname ▸ (hs.takes_name_iff hf).2 hread
    · rw [← ofTomlMembers_eq_map]
      refine hs.once_of_names hms.keys fun m hm => ?_
      obtain ⟨f, hf, hname, -⟩ := hall m hm
      exact ⟨f, hf, hname⟩
    · obtain ⟨f, hf, hname, -, hC⟩ := hall m hm
      exact ⟨List.mem_map.2 ⟨f, hf, hname⟩, hC⟩
  · rintro ⟨⟨htakes, -⟩, hplain⟩ m hm
    obtain ⟨hname, hC⟩ := hplain m hm
    obtain ⟨f, hf, hname⟩ := List.mem_map.1 hname
    have htaken := htakes m hm
    rw [← hname] at htaken
    exact ⟨f, hf, hname, (hs.takes_name_iff hf).1 htaken, hC⟩

/-! ## The fields of the sections -/

/-- The value does not ask for a cache without entries. -/
def CacheUsable (name : String) (t : Toml) : Prop := name = "compiled_cache_max_entries" → t ≠ .integer 0

section

variable {name : String} {alternative : Option String}

theorem agrees_of_reads (hname : f.name = p.name) (hcache : f.name ≠ "compiled_cache_max_entries")
    (h : ∀ t, Validates Schema.settings p.toJson t ↔ f.kind.Reads t) : Agrees CacheUsable f p where
  name_eq := hname
  validates_iff t _ := by
    rw [h t]
    exact (and_iff_left fun hc => absurd hc hcache).symm

theorem agrees_flag {get : σ → Bool} {set : Bool → σ → σ} {default : Bool} (hname : name = p.name)
    (hp : p.kind = .flag) (hcache : name ≠ "compiled_cache_max_entries") :
    Agrees CacheUsable ⟨name, alternative, .flag, get, set, default⟩ p :=
  agrees_of_reads hname hcache fun _ => (Schema.validates_flag hp).trans ValueKind.reads_flag_iff.symm

theorem agrees_text {get : σ → String} {set : String → σ → σ} {default : String} (hname : name = p.name)
    (hp : p.kind = .text) (hcache : name ≠ "compiled_cache_max_entries") :
    Agrees CacheUsable ⟨name, alternative, .text, get, set, default⟩ p :=
  agrees_of_reads hname hcache fun _ => (Schema.validates_text hp).trans ValueKind.reads_text_iff.symm

theorem agrees_optionalPath {get : σ → Option Path} {set : Option Path → σ → σ} {default : Option Path}
    (hname : name = p.name) (hp : p.kind = .optionalText) (hcache : name ≠ "compiled_cache_max_entries") :
    Agrees CacheUsable ⟨name, alternative, .optionalPath, get, set, default⟩ p :=
  agrees_of_reads hname hcache fun _ => (Schema.validates_optionalText hp).trans ValueKind.reads_optionalPath_iff.symm

theorem agrees_paths {get : σ → List Path} {set : List Path → σ → σ} {default : List Path} (hname : name = p.name)
    (hp : p.kind = .texts) (hcache : name ≠ "compiled_cache_max_entries") :
    Agrees CacheUsable ⟨name, alternative, .paths, get, set, default⟩ p :=
  agrees_of_reads hname hcache fun _ => (Schema.validates_texts hp).trans ValueKind.reads_paths_iff.symm

theorem agrees_natural {expected : Expected} {format : String} {get : σ → Nat} {set : Nat → σ → σ} {default : Nat}
    (hname : name = p.name) (hp : p.kind = .whole format 0) (hcache : name ≠ "compiled_cache_max_entries") :
    Agrees CacheUsable ⟨name, alternative, .natural expected, get, set, default⟩ p := by
  refine agrees_of_reads hname hcache fun t => ?_
  rw [Schema.validates_whole hp (by decide +kernel), ValueKind.reads_natural_iff]
  simp

/-- The cache has an entry at least under the schema, and none at all for the loader. -/
theorem agrees_cache {expected : Expected} {format : String} {get : σ → Nat} {set : Nat → σ → σ} {default : Nat}
    (hname : name = p.name) (hp : p.kind = .whole format 1) (hcache : name = "compiled_cache_max_entries") :
    Agrees CacheUsable ⟨name, alternative, .natural expected, get, set, default⟩ p where
  name_eq := hname
  validates_iff t _ := by
    rw [Schema.validates_whole hp (by decide +kernel), ValueKind.reads_natural_iff]
    constructor
    · rintro ⟨n, hn, rfl⟩
      refine ⟨⟨n, rfl⟩, fun _ hzero => ?_⟩
      cases hzero
      exact absurd hn (by decide)
    · rintro ⟨⟨n, rfl⟩, husable⟩
      have hpos : n ≠ 0 := by
        rintro rfl
        exact husable hcache rfl
      exact ⟨n, Nat.pos_of_ne_zero hpos, rfl⟩

end

theorem debug_agrees :
    List.Forall₂ (Agrees CacheUsable) DebugSettings.section.fields Schema.debugDefinition.properties :=
  .cons (agrees_flag rfl rfl (by decide)) <| .cons (agrees_flag rfl rfl (by decide)) <|
  .cons (agrees_paths rfl rfl (by decide)) <| .cons (agrees_cache rfl rfl rfl) <|
  .cons (agrees_natural rfl rfl (by decide)) <| .cons (agrees_natural rfl rfl (by decide)) <|
  .cons (agrees_paths rfl rfl (by decide)) <| .cons (agrees_flag rfl rfl (by decide)) <|
  .cons (agrees_natural rfl rfl (by decide)) <| .cons (agrees_natural rfl rfl (by decide)) .nil

theorem logging_agrees :
    List.Forall₂ (Agrees CacheUsable) LoggingSettings.section.fields Schema.loggingDefinition.properties :=
  .cons (agrees_text rfl rfl (by decide)) <| .cons (agrees_flag rfl rfl (by decide)) <|
  .cons (agrees_flag rfl rfl (by decide)) <| .cons (agrees_optionalPath rfl rfl (by decide)) .nil

/-! ## The document -/

/-- The names of the settings of a section. -/
def settingNames : String → List String
  | "debug" => ["enabled", "verbose", "web_roots", "compiled_cache_max_entries", "compiled_cache_debounce_ms",
      "resolved_path_ttl_ms", "work_dirs", "use_default_work_dirs", "max_scan_files", "discovery_ttl_ms"]
  | "logging" => ["level", "json", "stderr", "file"]
  | _ => []

/-- The section is a table, its settings have their names and no other spellings, and its cache has an entry. -/
def PlainSection (name : String) (t : Toml) : Prop :=
  ∃ origin ms, t = .table origin ms ∧ ∀ m ∈ ms, m.1 ∈ settingNames name ∧ CacheUsable m.1 m.2

/-- The document has sections in tables only, under the names of settings. -/
def PlainDocument (members : Toml.Members) : Prop :=
  ∀ m ∈ members, m.1 ∈ ["debug", "logging"] ∧ PlainSection m.1 m.2

theorem agrees_section {τ : Type} {inner : Section τ} {d : Schema.Definition} {name : String} {start : τ}
    {get : σ → τ} {set : τ → σ → σ} {default : τ} (hinner : inner.Lawful)
    (h : List.Forall₂ (Agrees CacheUsable) inner.fields d.properties)
    (hnames : inner.fields.map Field.name = settingNames name) (hnodup : (d.properties.map Schema.Property.name).Nodup)
    (htarget : Schema.settings.target? ("#/definitions/" ++ d.title) = some (Json.ofMembers d.members))
    (hname : name = p.name) (hp : p.kind = .definition d.title) :
    Agrees PlainSection ⟨name, none, .ofSection inner start, get, set, default⟩ p where
  name_eq := hname
  validates_iff t ht := by
    have hobject : Validates Schema.settings (Json.ofMembers ([] ++ d.members)) t ↔ _ :=
      Schema.validates_object_iff hnodup (by simp)
    rw [Schema.validates_definition hp htarget, ← List.nil_append d.members, hobject]
    constructor
    · rintro ⟨origin, ms, rfl, hall⟩
      cases ht with
      | table hkeys hvalues =>
        obtain ⟨hread, hplain⟩ := (validates_members_iff hinner h ⟨hkeys, hvalues⟩ start).1 hall
        rw [hnames] at hplain
        exact ⟨hread, origin, ms, rfl, hplain⟩
    · rintro ⟨hread, origin, ms, rfl, hplain⟩
      cases ht with
      | table hkeys hvalues =>
        rw [← hnames] at hplain
        exact ⟨origin, ms, rfl, (validates_members_iff hinner h ⟨hkeys, hvalues⟩ start).2 ⟨hread, hplain⟩⟩

theorem settings_agrees :
    List.Forall₂ (Agrees PlainSection) Settings.section.fields Schema.settingsDefinition.properties :=
  .cons (agrees_section DebugSettings.section_lawful debug_agrees rfl (by decide) rfl rfl rfl) <|
  .cons (agrees_section LoggingSettings.section_lawful logging_agrees rfl (by decide) rfl rfl rfl) .nil

theorem ofToml_isOk_iff {text : String} {members : Toml.Members} (h : Toml.parse? text = some members) :
    (∃ s, Settings.ofToml text = .ok s) ↔
      ∃ s, Settings.section.readMembers [] {} (Document.ofTomlMembers members) = .ok s := by
  unfold Settings.ofToml
  rw [h]
  change (∃ s, (Settings.section.readMembers [] {} (Document.ofTomlMembers members)).mapError _ = .ok s) ↔ _
  cases Settings.section.readMembers [] {} (Document.ofTomlMembers members) <;> simp [Except.mapError]

theorem Schema.validates_settings_iff :
    Validates settings settings t ↔ ∃ origin ms, t = .table origin ms ∧
      ∀ m ∈ ms, ∃ p ∈ settingsDefinition.properties, p.name = m.1 ∧ Validates settings p.toJson m.2 :=
  validates_object_iff (by decide) (by simp)

/-- A document is valid under the schema exactly if the loader takes it, and it uses tables and the names of settings
only, and no cache without entries. -/
theorem Schema.settings_validates_iff {text : String} {members : Toml.Members} (h : Toml.parse? text = some members)
    (origin : Toml.Origin) :
    Validates settings settings (.table origin members) ↔
      (∃ s, Settings.ofToml text = .ok s) ∧ PlainDocument members := by
  have hmembers := validates_members_iff Settings.section_lawful settings_agrees (Toml.distinct_of_parse? h) {}
  rw [validates_settings_iff, ofToml_isOk_iff h]
  refine Iff.trans ?_ hmembers
  constructor
  · rintro ⟨_, _, heq, hall⟩
    cases heq
    exact hall
  · exact fun hall => ⟨origin, members, rfl, hall⟩

/-- A document with one setting is read, taken by the loader and valid. -/
theorem Schema.settings_validates_verbose :
    Toml.parse? "[debug]\nverbose = true\n" = some [("debug", .table .header [("verbose", .flag true)])] ∧
    Validates settings settings (.table .header [("debug", .table .header [("verbose", .flag true)])]) := by
  have hparse : Toml.parse? "[debug]\nverbose = true\n" =
      some [("debug", .table .header [("verbose", .flag true)])] := by
    cbv
  have hloads : (Settings.ofToml "[debug]\nverbose = true\n").toBool = true := by
    decide +kernel
  have hplain : PlainDocument [("debug", .table .header [("verbose", .flag true)])] := by
    simp [PlainDocument, PlainSection, settingNames, CacheUsable]
  refine ⟨hparse, (settings_validates_iff hparse .header).2 ⟨?_, hplain⟩⟩
  cases hloaded : Settings.ofToml "[debug]\nverbose = true\n" with
  | ok s => exact ⟨s, rfl⟩
  | error e =>
    rw [hloaded] at hloads
    cases hloads

end TemplateDebug
