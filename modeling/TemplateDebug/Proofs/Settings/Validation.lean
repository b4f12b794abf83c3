import Mathlib.Data.Rat.Cast.Order
import TemplateDebug.Proofs.Json.Objects
import TemplateDebug.Settings.Schema
import TemplateDebug.Text.Split
import TemplateDebug.Toml.Basic
/-!
# Documents that a schema allows

What it means for a TOML value to be valid under a schema, for the keywords that the schema of the settings uses. From
this, what the schema of each kind of field asks for, and that of an object with its properties.
-/

namespace TemplateDebug

/-! ## Numbers -/

/-- The value of a finite number. -/
def Double.toRat? (x : Double) : Option Rat :=
  if x.isFinite then some ((if x.isNegative then -1 else 1) * (x.ratio.1 / x.ratio.2)) else none

def Json.number? : Json → Option Rat
  | .int n => some n
  | .real x => x.toRat?
  | _ => none

/-! ## Values as a schema sees them -/

namespace Toml

def number? : Toml → Option Rat
  | integer n => some n
  | real x => x.toRat?
  | _ => none

/-- The names of the types that a value has. A real number is no integer; dates and times have no type. -/
def typeNames : Toml → List String
  | text _ => ["string"]
  | integer _ => ["integer", "number"]
  | real _ => ["number"]
  | flag _ => ["boolean"]
  | dateTime _ => []
  | list _ | tables _ => ["array"]
  | table .. => ["object"]

def items : Toml → List Toml
  | list items | tables items => items
  | _ => []

def members : Toml → Members
  | table _ ms => ms
  | _ => []

end Toml

namespace Json

/-- The type keyword, which names one type or some, allows the value. -/
def Allows (types : Json) (t : Toml) : Prop :=
  ∃ name ∈ t.typeNames, types = .str name ∨ ∃ names, types = .arr names ∧ .str name ∈ names

/-- What a reference points to. -/
def target? (root : Json) (reference : String) : Option Json :=
  match Text.splitParts (· = '/') reference.toList with
  | ['#'] :: names => names.foldlM (fun j name => j.get? (String.ofList name)) root
  | _ => none

/-- The schema of a member: that of its property, or else that of additional ones. -/
def memberSchema? (schema : Json) (key : String) : Option Json :=
  ((schema.get? "properties").bind (get? key)).or (schema.get? "additionalProperties")

end Json

/-- The value is valid under the schema. A schema that is a reference is nothing else. -/
inductive Validates (root : Json) : Json → Toml → Prop where
  | anything (t : Toml) : Validates root (.bool true) t
  | reference {schema target : Json} {reference : String} {t : Toml}
      (href : schema.get? "$ref" = some (.str reference)) (htarget : root.target? reference = some target)
      (h : Validates root target t) : Validates root schema t
  | keywords {schema : Json} {t : Toml} (hobject : schema.IsObject) (href : schema.get? "$ref" = none)
      (htype : ∀ types, schema.get? "type" = some types → types.Allows t)
      (hleast : ∀ least, schema.get? "minimum" = some least → ∀ low ∈ least.number?, ∀ n ∈ t.number?, low ≤ n)
      (hitems : ∀ inner, schema.get? "items" = some inner → ∀ item ∈ t.items, Validates root inner item)
      (hmembers : ∀ m ∈ t.members, ∀ inner, schema.memberSchema? m.1 = some inner → Validates root inner m.2)
      (hall : ∀ inners, schema.get? "allOf" = some (.arr inners) → ∀ inner ∈ inners, Validates root inner t) :
      Validates root schema t

namespace Validates

variable {root schema target : Json} {t : Toml} {reference : String}

theorem not_false : ¬ Validates root (.bool false) t := by
  rintro (_ | ⟨href⟩ | ⟨hobject⟩)
  · cases href
  · exact hobject

theorem reference_iff (href : schema.get? "$ref" = some (.str reference))
    (htarget : root.target? reference = some target) : Validates root schema t ↔ Validates root target t := by
  constructor
  · rintro (_ | ⟨href', htarget', h⟩ | ⟨_, href'⟩)
    · cases href
    · rw [href] at href'
      cases href'
      rw [htarget] at htarget'
      cases htarget'
      exact h
    · rw [href] at href'
      cases href'
  · exact .reference href htarget

theorem keywords_iff (hobject : schema.IsObject) (href : schema.get? "$ref" = none) :
    Validates root schema t ↔
      (∀ types, schema.get? "type" = some types → types.Allows t) ∧
      (∀ least, schema.get? "minimum" = some least → ∀ low ∈ least.number?, ∀ n ∈ t.number?, low ≤ n) ∧
      (∀ inner, schema.get? "items" = some inner → ∀ item ∈ t.items, Validates root inner item) ∧
      (∀ m ∈ t.members, ∀ inner, schema.memberSchema? m.1 = some inner → Validates root inner m.2) ∧
      ∀ inners, schema.get? "allOf" = some (.arr inners) → ∀ inner ∈ inners, Validates root inner t := by
  constructor
  · rintro (_ | ⟨href'⟩ | ⟨_, _, htype, hleast, hitems, hmembers, hall⟩)
    · exact hobject.elim
    · rw [href] at href'
      cases href'
    · exact ⟨htype, hleast, hitems, hmembers, hall⟩
  · rintro ⟨htype, hleast, hitems, hmembers, hall⟩
    exact .keywords hobject href htype hleast hitems hmembers hall

end Validates

/-! ## Fields -/

namespace Schema

variable {root target : Json} {t : Toml} {p : Property} {kind : Schema} {title : String}

/-- A keyword of the schema of a kind. -/
def keyword? (kind : Schema) (key : String) : Option Json := kind.keywords.reverse.lookup key

theorem get?_property (p : Property) {key : String} (hdescription : key ≠ "description") (hdefault : key ≠ "default") :
    p.toJson.get? key = p.kind.keyword? key := by
  rw [Property.toJson, Json.get?_ofMembers, List.reverse_append, List.lookup_append]
  have hfront : [("description", Json.str p.description), ("default", p.default)].reverse.lookup key = none :=
    List.lookup_eq_none_iff.2 (by simp [hdescription, hdefault])
  rw [hfront, Option.or_none, keyword?]

theorem keyword?_eq_none (kind : Schema) :
    kind.keyword? "$ref" = none ∧ kind.keyword? "properties" = none ∧ kind.keyword? "additionalProperties" = none := by
  cases kind <;> exact ⟨rfl, rfl, rfl⟩

/-- No kind has properties or is a reference. -/
theorem validates_property_iff (hp : p.kind = kind) :
    Validates root p.toJson t ↔
      (∀ types, kind.keyword? "type" = some types → types.Allows t) ∧
      (∀ least, kind.keyword? "minimum" = some least → ∀ low ∈ least.number?, ∀ n ∈ t.number?, low ≤ n) ∧
      (∀ inner, kind.keyword? "items" = some inner → ∀ item ∈ t.items, Validates root inner item) ∧
      ∀ inners, kind.keyword? "allOf" = some (.arr inners) → ∀ inner ∈ inners, Validates root inner t := by
  have hobject : p.toJson.IsObject := Json.isObject_ofMembers _
  have hget : ∀ key, key ≠ "description" → key ≠ "default" → p.toJson.get? key = kind.keyword? key := by
    intro key hdescription hdefault
    rw [get?_property p hdescription hdefault, hp]
  obtain ⟨href, hproperties, hadditional⟩ := keyword?_eq_none kind
  rw [Validates.keywords_iff hobject (by rw [hget _ (by decide) (by decide), href])]
  simp only [Json.memberSchema?]
  rw [hget "type" (by decide) (by decide), hget "minimum" (by decide) (by decide), hget "items" (by decide) (by decide),
    hget "properties" (by decide) (by decide), hget "additionalProperties" (by decide) (by decide),
    hget "allOf" (by decide) (by decide), hproperties, hadditional]
  simp

theorem allows_str_iff {name : String} : Json.Allows (.str name) t ↔ name ∈ t.typeNames := by
  simp [Json.Allows]

/-- A field of which only the type is asked. -/
theorem validates_typed (hp : p.kind = kind) {types : Json} (htype : kind.keyword? "type" = some types)
    (hrest : kind.keyword? "minimum" = none ∧ kind.keyword? "items" = none ∧ kind.keyword? "allOf" = none) :
    Validates root p.toJson t ↔ types.Allows t := by
  obtain ⟨hleast, hitems, hall⟩ := hrest
  rw [validates_property_iff hp, htype, hleast, hitems, hall]
  simp

theorem validates_flag (hp : p.kind = flag) : Validates root p.toJson t ↔ ∃ b, t = .flag b := by
  rw [validates_typed hp rfl ⟨rfl, rfl, rfl⟩, allows_str_iff]
  cases t <;> simp [Toml.typeNames]

theorem validates_text (hp : p.kind = text) : Validates root p.toJson t ↔ ∃ s, t = .text s := by
  rw [validates_typed hp rfl ⟨rfl, rfl, rfl⟩, allows_str_iff]
  cases t <;> simp [Toml.typeNames]

/-- No value is null, so a text that may be null is a text. -/
theorem validates_optionalText (hp : p.kind = optionalText) : Validates root p.toJson t ↔ ∃ s, t = .text s := by
  rw [validates_typed hp rfl ⟨rfl, rfl, rfl⟩, Json.Allows]
  cases t <;> simp [Toml.typeNames]

theorem validates_item : Validates root (Json.ofMembers [("type", .str "string")]) t ↔ ∃ s, t = .text s := by
  have hget : ∀ key, key ≠ "type" → (Json.ofMembers [("type", .str "string")]).get? key = none :=
    fun key hkey => Json.get?_ofMembers_eq_none (by simpa using hkey)
  have htype : (Json.ofMembers [("type", .str "string")]).get? "type" = some (.str "string") := rfl
  rw [Validates.keywords_iff (Json.isObject_ofMembers _) (hget _ (by decide))]
  simp only [Json.memberSchema?]
  rw [htype, hget "minimum" (by decide), hget "items" (by decide), hget "properties" (by decide),
    hget "additionalProperties" (by decide), hget "allOf" (by decide)]
  cases t <;> simp [Toml.typeNames, allows_str_iff]

theorem validates_texts (hp : p.kind = texts) :
    Validates root p.toJson t ↔
      ∃ items, (t = .list items ∨ t = .tables items) ∧ ∀ item ∈ items, ∃ s, item = .text s := by
  have htype : texts.keyword? "type" = some (.str "array") := rfl
  have hitems : texts.keyword? "items" = some (Json.ofMembers [("type", .str "string")]) := rfl
  have hrest : texts.keyword? "minimum" = none ∧ texts.keyword? "allOf" = none := ⟨rfl, rfl⟩
  rw [validates_property_iff hp, htype, hitems, hrest.1, hrest.2]
  cases t <;> simp [Toml.typeNames, Toml.items, allows_str_iff, validates_item]

theorem validates_whole {format : String} {least : Nat} (hp : p.kind = whole format least)
    (hleast : (Double.ofRatio false least 1).toRat? = some (least : Rat)) :
    Validates root p.toJson t ↔ ∃ n : Nat, least ≤ n ∧ t = .integer n := by
  have htype : (whole format least).keyword? "type" = some (.str "integer") := rfl
  have hmin : (whole format least).keyword? "minimum" = some (.real (Double.ofRatio false least 1)) := rfl
  have hrest : (whole format least).keyword? "items" = none ∧ (whole format least).keyword? "allOf" = none := ⟨rfl, rfl⟩
  rw [validates_property_iff hp, htype, hmin, hrest.1, hrest.2]
  cases t with
  | integer n =>
    constructor
    · rintro ⟨-, hlow, -⟩
      have hle : (least : Int) ≤ n := by exact_mod_cast hlow _ rfl _ hleast _ rfl
      obtain ⟨n, rfl⟩ := Int.eq_ofNat_of_zero_le (Int.le_trans (Int.natCast_nonneg least) hle)
      exact ⟨n, Int.ofNat_le.1 hle, rfl⟩
    · rintro ⟨n, hle, h⟩
      cases h
      refine ⟨by simp [allows_str_iff, Toml.typeNames], ?_, by simp, by simp⟩
      rintro _ ⟨⟩ low hlow _ ⟨⟩
      cases hleast.symm.trans hlow
      exact_mod_cast hle
  | _ => simp [Toml.typeNames, allows_str_iff]

theorem validates_definition (hp : p.kind = definition title)
    (htarget : root.target? ("#/definitions/" ++ title) = some target) :
    Validates root p.toJson t ↔ Validates root target t := by
  have hrest : (definition title).keyword? "type" = none ∧ (definition title).keyword? "minimum" = none ∧
    (definition title).keyword? "items" = none := ⟨rfl, rfl, rfl⟩
  have hall : (definition title).keyword? "allOf" =
    some (.arr [Json.ofMembers [("$ref", .str ("#/definitions/" ++ title))]]) := rfl
  rw [validates_property_iff hp, hrest.1, hrest.2.1, hrest.2.2, hall]
  have href : (Json.ofMembers [("$ref", .str ("#/definitions/" ++ title))]).get? "$ref" =
    some (.str ("#/definitions/" ++ title)) := rfl
  simp [Validates.reference_iff href htarget]

/-! ## Objects -/

section

variable {d : Definition} {front : List (String × Json)} {key : String} {value : Toml}

/-- The keywords that say what an object is. -/
def Definition.keyword? (d : Definition) (key : String) : Option Json :=
  [("properties", Json.ofMembers (d.properties.map fun p => (p.name, p.toJson))), ("additionalProperties", .bool false),
    ("type", .str "object")].lookup key

theorem get?_object (hkey : key ≠ "description") (hfront : key ∉ front.map Prod.fst) :
    (Json.ofMembers (front ++ d.members)).get? key = d.keyword? key := by
  have hothers : (front ++ (d.description.map fun text => ("description", Json.str text)).toList).reverse.lookup key =
      none := by
    rw [List.lookup_eq_none_iff]
    intro m hm
    rw [List.mem_reverse, List.mem_append, Option.mem_toList] at hm
    rw [bne_iff_ne]
    rintro rfl
    rcases hm with hm | hm
    · exact hfront (List.mem_map_of_mem hm)
    · obtain ⟨_, -, rfl⟩ := Option.map_eq_some_iff.1 hm
      exact hkey rfl
  rw [Json.get?_ofMembers, Definition.members, ← List.append_assoc, List.reverse_append, List.lookup_append, hothers,
    Option.or_none]
  rfl

/-- A member is valid if it is a property and valid as this. -/
theorem validates_member_iff (hnodup : (d.properties.map Property.name).Nodup)
    (hproperties : "properties" ∉ front.map Prod.fst) (hadditional : "additionalProperties" ∉ front.map Prod.fst) :
    (∀ inner, (Json.ofMembers (front ++ d.members)).memberSchema? key = some inner → Validates root inner value) ↔
      ∃ p ∈ d.properties, p.name = key ∧ Validates root p.toJson value := by
  have hkeys : ((d.properties.map fun p => (p.name, p.toJson)).map Prod.fst).Nodup := by
    rw [List.map_map]
    exact hnodup
  have hschema : (Json.ofMembers (front ++ d.members)).memberSchema? key =
      ((Json.ofMembers (d.properties.map fun p => (p.name, p.toJson))).get? key).or (some (.bool false)) := by
    rw [Json.memberSchema?, get?_object (by decide) hproperties, get?_object (by decide) hadditional]
    rfl
  rw [hschema]
  constructor
  · intro h
    -- a member that is no property is an additional one, of which there are none
    by_cases hp : ∃ p ∈ d.properties, p.name = key
    · obtain ⟨p, hp, rfl⟩ := hp
      refine ⟨p, hp, rfl, h _ ?_⟩
      rw [Json.get?_ofMembers_of_mem hkeys (List.mem_map.2 ⟨p, hp, rfl⟩), Option.some_or]
    · refine absurd (h _ ?_) Validates.not_false
      rw [Json.get?_ofMembers_eq_none, Option.none_or]
      rw [List.map_map]
      intro hm
      obtain ⟨p, hmem, hname⟩ := List.mem_map.1 hm
      exact hp ⟨p, hmem, hname⟩
  · rintro ⟨p, hp, rfl, h⟩ inner hinner
    rw [Json.get?_ofMembers_of_mem hkeys (List.mem_map.2 ⟨p, hp, rfl⟩), Option.some_or] at hinner
    cases hinner
    exact h

/-- An object is a table with properties only. Members of the schema besides those of the definition do not matter. -/
theorem validates_object_iff (hnodup : (d.properties.map Property.name).Nodup)
    (hfront : ∀ key ∈ front.map Prod.fst, key ∉ ["$ref", "type", "minimum", "items", "allOf", "properties",
      "additionalProperties"]) :
    Validates root (Json.ofMembers (front ++ d.members)) t ↔
      ∃ origin ms, t = .table origin ms ∧ ∀ m ∈ ms, ∃ p ∈ d.properties, p.name = m.1 ∧ Validates root p.toJson m.2 := by
  have hnew : ∀ key ∈ ["$ref", "type", "minimum", "items", "allOf", "properties", "additionalProperties"],
      key ∉ front.map Prod.fst := fun key hkey hmem => hfront key hmem hkey
  have hget : ∀ key ∈ ["$ref", "type", "minimum", "items", "allOf"],
      (Json.ofMembers (front ++ d.members)).get? key = d.keyword? key := by
    intro key hkey
    have hdescription : key ≠ "description" := by
      rintro rfl
      exact absurd hkey (by decide)
    exact get?_object hdescription (hnew key (List.mem_of_mem_take (i := 5) hkey))
  rw [Validates.keywords_iff (Json.isObject_ofMembers _) (hget _ (by decide))]
  rw [hget "type" (by decide), hget "minimum" (by decide), hget "items" (by decide), hget "allOf" (by decide)]
  have hkeywords : d.keyword? "type" = some (.str "object") ∧ d.keyword? "minimum" = none ∧ d.keyword? "items" = none ∧
    d.keyword? "allOf" = none := ⟨rfl, rfl, rfl, rfl⟩
  rw [hkeywords.1, hkeywords.2.1, hkeywords.2.2.1, hkeywords.2.2.2]
  simp only [validates_member_iff hnodup (hnew _ (by decide)) (hnew _ (by decide))]
  cases t <;> simp [Toml.typeNames, Toml.members, allows_str_iff]

end

end Schema

end TemplateDebug
