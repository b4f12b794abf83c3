import Mathlib.Data.List.Forall2
import Mathlib.Data.List.Nodup
import Mathlib.Data.List.Pairwise
import TemplateDebug.Proofs.Json.Objects
import TemplateDebug.Settings.Section
/-!
# What a section takes

A table is a section if each of its keys spells a field, no field is given twice and each value is of its field's kind.
The fields that are given have these values then, and all others their defaults. The order of the members does not
matter for this, nor which of the spellings of a field is used, and what shows a value is read as that value.
-/

namespace TemplateDebug

/-! ## Lists side by side -/

section

variable {α : Type*} {β : Type*} {R : α → β → Prop} {P : α → Prop} {Q : β → Prop} {as : List α} {bs : List β}

theorem exists_mem_of_forall₂ (h : List.Forall₂ R as bs) {b : β} (hb : b ∈ bs) : ∃ a ∈ as, R a b := by
  induction h with
  | nil => cases hb
  | cons hab _ ih =>
    rcases List.mem_cons.1 hb with rfl | hb
    · exact ⟨_, List.mem_cons_self, hab⟩
    · obtain ⟨a, ha, hab⟩ := ih hb
      exact ⟨a, List.mem_cons_of_mem _ ha, hab⟩

theorem forall_mem_iff_of_forall₂ (h : List.Forall₂ R as bs) (hPQ : ∀ a b, R a b → (P a ↔ Q b)) :
    (∀ a ∈ as, P a) ↔ ∀ b ∈ bs, Q b := by
  induction h with
  | nil => simp
  | cons hab _ ih => rw [List.forall_mem_cons, List.forall_mem_cons, hPQ _ _ hab, ih]

theorem exists_mem_iff_of_forall₂ (h : List.Forall₂ R as bs) (hPQ : ∀ a b, R a b → (P a ↔ Q b)) :
    (∃ a ∈ as, P a) ↔ ∃ b ∈ bs, Q b := by
  have hnone := forall_mem_iff_of_forall₂ h fun a b hab => not_congr (hPQ a b hab)
  simpa only [not_forall, not_not, exists_prop] using not_congr hnone

end

/-! ## Kinds -/

/-- What is read is what a shown value stands for, and the other way round. -/
structure ValueKind.Faithful {α : Type} (kind : ValueKind α) : Prop where
  read_view : ∀ v, kind.read (.ofJson (kind.view v)) = .ok v
  view_of_read : ∀ {j v}, kind.read (.ofJson j) = .ok v → kind.view v = j

theorem ValueKind.Faithful.reads_iff {α : Type} {kind : ValueKind α} (h : kind.Faithful) {j : Json} :
    (∃ v, kind.read (.ofJson j) = .ok v) ↔ ∃ v, kind.view v = j := by
  constructor
  · rintro ⟨v, hv⟩
    exact ⟨v, h.view_of_read hv⟩
  · rintro ⟨v, rfl⟩
    exact ⟨v, h.read_view v⟩

namespace Section

variable {σ : Type} {s : Section σ} {f g : Field σ} {fields : List (Field σ)} {value result : σ} {key : String}
  {d : Document} {given : List String} {members others : List (String × Document)}

/-- No two fields share a spelling, each field is kept in a place of its own, and the fields are all there is to a
value. -/
structure Lawful (s : Section σ) : Prop where
  keys_nodup : s.keys.Nodup
  get_set : ∀ f ∈ s.fields, ∀ v value, f.get (f.set v value) = v
  get_set_of_name_ne : ∀ f ∈ s.fields, ∀ g ∈ s.fields, f.name ≠ g.name → ∀ v value, g.get (f.set v value) = g.get value
  ext : ∀ a b : σ, (∀ f ∈ s.fields, f.get a = f.get b) → a = b

/-! ## Fields and their spellings -/

theorem name_mem_spellings (f : Field σ) : f.name ∈ spellings f := List.mem_append_right _ (List.mem_singleton_self _)

theorem Lawful.eq_of_spelled (h : s.Lawful) (hf : f ∈ s.fields) (hg : g ∈ s.fields) (hfk : key ∈ spellings f)
    (hgk : key ∈ spellings g) : f = g := by
  by_contra hne
  have hsymm : Std.Symm (Function.onFun List.Disjoint (spellings : Field σ → List String)) :=
    ⟨fun _ _ h _ hb ha => h ha hb⟩
  exact (List.nodup_flatMap.1 h.keys_nodup).2.forall hf hg hne hfk hgk

theorem Lawful.name_ne (h : s.Lawful) (hf : f ∈ s.fields) (hg : g ∈ s.fields) (hne : f ≠ g) : f.name ≠ g.name :=
  fun hname => hne (h.eq_of_spelled hf hg (name_mem_spellings f) (hname ▸ name_mem_spellings g))

theorem Lawful.get_set_of_ne (h : s.Lawful) (hf : f ∈ s.fields) (hg : g ∈ s.fields) (hne : f ≠ g) (v : f.Value)
    (value : σ) : g.get (f.set v value) = g.get value :=
  h.get_set_of_name_ne f hf g hg (h.name_ne hf hg hne) v value

theorem field?_eq_none (h : s.field? key = none) (hf : f ∈ s.fields) : key ∉ spellings f := by
  have := List.find?_eq_none.1 h f hf
  simpa using this

theorem mem_of_field? (h : s.field? key = some f) : f ∈ s.fields ∧ key ∈ spellings f := by
  have hspelled := List.find?_some h
  exact ⟨List.mem_of_find?_eq_some h, by simpa using hspelled⟩

/-! ## Defaults -/

theorem Lawful.get_reset_of_not_mem (h : s.Lawful) (hfields : fields ⊆ s.fields) (hg : g ∈ s.fields) (hgf : g ∉ fields)
    (value : σ) : g.get (reset fields value) = g.get value := by
  induction fields generalizing value with
  | nil => rfl
  | cons f fields ih =>
    rw [List.mem_cons, not_or] at hgf
    obtain ⟨hf, hfields⟩ := List.cons_subset.1 hfields
    exact (ih hfields hgf.2 _).trans (h.get_set_of_ne hf hg (Ne.symm hgf.1) _ _)

theorem Lawful.get_reset (h : s.Lawful) (hfields : fields ⊆ s.fields) (hgf : g ∈ fields) (value : σ) :
    g.get (reset fields value) = g.default := by
  induction fields generalizing value with
  | nil => cases hgf
  | cons f fields ih =>
    obtain ⟨hf, hrest⟩ := List.cons_subset.1 hfields
    -- a field may come again further back, and then that counts
    by_cases hlater : g ∈ fields
    · exact ih hrest hlater _
    · have hg : g = f := (List.mem_cons.1 hgf).resolve_right hlater
      subst hg
      have hkept := h.get_reset_of_not_mem hrest hf hlater (g.set g.default value)
      exact hkept.trans (h.get_set g hf g.default value)

/-! ## What is accepted -/

/-- No two members spell one field. -/
def Once (s : Section σ) (members : List (String × Document)) : Prop :=
  members.Pairwise fun a b => ∀ f ∈ s.fields, a.1 ∈ spellings f → b.1 ∉ spellings f

/-- The member spells a field that is not among those given before, and its value is of the kind. -/
def Takes (s : Section σ) (given : List String) (m : String × Document) : Prop :=
  ∃ f ∈ s.fields, m.1 ∈ spellings f ∧ f.name ∉ given ∧ ∃ v, f.kind.read m.2 = .ok v

/-- A field more is given when a later member may not spell it. -/
theorem Lawful.takes_cons_iff (h : s.Lawful) (hf : f ∈ s.fields) {m : String × Document} :
    s.Takes (f.name :: given) m ↔ s.Takes given m ∧ m.1 ∉ spellings f := by
  constructor
  · rintro ⟨g, hg, hspelled, hnew, hread⟩
    rw [List.mem_cons, not_or] at hnew
    refine ⟨⟨g, hg, hspelled, hnew.2, hread⟩, fun hspelled' => hnew.1 ?_⟩
    rw [h.eq_of_spelled hg hf hspelled hspelled']
  · rintro ⟨⟨g, hg, hspelled, hnew, hread⟩, hother⟩
    refine ⟨g, hg, hspelled, ?_, hread⟩
    rw [List.mem_cons, not_or]
    exact ⟨h.name_ne hg hf fun hgf => hother (hgf ▸ hspelled), hnew⟩

/-- A first member that is taken over. -/
theorem readMembers_cons (h : s.Lawful) (hf : f ∈ s.fields) (hspelled : key ∈ spellings f) (hnew : f.name ∉ given)
    {v : f.Value} (hv : f.kind.read d = .ok v) :
    s.readMembers given value ((key, d) :: members) =
      s.readMembers (f.name :: given) (f.set v value) members := by
  rw [readMembers]
  cases hfield : s.field? key with
  | none => exact absurd hspelled (field?_eq_none hfield hf)
  | some g =>
    obtain ⟨hg, hspelled'⟩ := mem_of_field? hfield
    cases h.eq_of_spelled hf hg hspelled hspelled'
    simp [hnew, hv]

theorem takes_of_readMembers (hr : s.readMembers given value ((key, d) :: members) = .ok result) :
    s.Takes given (key, d) := by
  rw [readMembers] at hr
  cases hfield : s.field? key with
  | none => simp [hfield] at hr
  | some f =>
    obtain ⟨hf, hspelled⟩ := mem_of_field? hfield
    simp only [hfield] at hr
    split at hr
    · cases hr
    · rename_i hnew
      cases hv : f.kind.read d with
      | error e => simp [hv] at hr
      | ok v => exact ⟨f, hf, hspelled, by simpa using hnew, v, hv⟩

theorem Lawful.readMembers_isOk_iff (h : s.Lawful) :
    (∃ result, s.readMembers given value members = .ok result) ↔ (∀ m ∈ members, s.Takes given m) ∧ s.Once members := by
  induction members generalizing given value with
  | nil => simp [readMembers, Once]
  | cons m members ih =>
    obtain ⟨key, d⟩ := m
    by_cases hm : s.Takes given (key, d)
    · -- the field of the first member is among those given for the others
      obtain ⟨f, hf, hspelled, hnew, v, hv⟩ := id hm
      have honce : s.Once ((key, d) :: members) ↔ (∀ m ∈ members, m.1 ∉ spellings f) ∧ s.Once members := by
        refine List.pairwise_cons.trans (and_congr_left' (forall₂_congr fun m _ => ?_))
        constructor
        · exact fun hother => hother f hf hspelled
        · intro hother g hg hspelled'
          exact h.eq_of_spelled hf hg hspelled hspelled' ▸ hother
      rw [readMembers_cons h hf hspelled hnew hv, ih, List.forall_mem_cons, honce]
      simp only [h.takes_cons_iff hf, hm, true_and, forall_and]
      tauto
    · refine iff_of_false (fun ⟨result, hr⟩ => hm (takes_of_readMembers hr)) fun hall => ?_
      exact hm (hall.1 _ List.mem_cons_self)

/-! ## What is read -/

/-- A field that a member spells has the value of this member, and other fields their defaults, unless they were given
before and have kept what they had. -/
structure Gives (s : Section σ) (given : List String) (value : σ) (members : List (String × Document))
    (result : σ) : Prop where
  read : ∀ m ∈ members, ∀ f ∈ s.fields, m.1 ∈ spellings f → f.kind.read m.2 = .ok (f.get result)
  kept : ∀ f ∈ s.fields, f.name ∈ given → f.get result = f.get value
  default : ∀ f ∈ s.fields, f.name ∉ given → (∀ m ∈ members, m.1 ∉ spellings f) → f.get result = f.default

theorem Lawful.gives_of_readMembers (h : s.Lawful) (hr : s.readMembers given value members = .ok result) :
    s.Gives given value members result := by
  induction members generalizing given value with
  | nil =>
    cases hr
    have hfields : (s.fields.filter fun f => !given.contains f.name) ⊆ s.fields :=
      List.filter_subset_self _
    refine ⟨fun m hm => absurd hm List.not_mem_nil, fun f hf hgiven => ?_, fun f hf hnew _ => ?_⟩
    · exact h.get_reset_of_not_mem hfields hf (by simp [hgiven]) value
    · exact h.get_reset hfields (List.mem_filter.2 ⟨hf, by simpa using hnew⟩) value
  | cons m members ih =>
    obtain ⟨key, d⟩ := m
    obtain ⟨f, hf, hspelled, hnew, v, hv⟩ := takes_of_readMembers hr
    rw [readMembers_cons h hf hspelled hnew hv] at hr
    have hrest := ih hr
    -- fields given before keep what they had, so this one the value that was just set
    have hfv : f.get result = v := (hrest.kept f hf List.mem_cons_self).trans (h.get_set f hf v value)
    refine ⟨fun m hm g hg hg' => ?_, fun g hg hgiven => ?_, fun g hg hgiven hnone => ?_⟩
    · rcases List.mem_cons.1 hm with rfl | hm
      · cases h.eq_of_spelled hf hg hspelled hg'
        rw [hfv, hv]
      · exact hrest.read m hm g hg hg'
    · rw [hrest.kept g hg (List.mem_cons_of_mem _ hgiven)]
      exact h.get_set_of_ne hf hg (fun hfg => hnew (hfg ▸ hgiven)) v value
    · obtain ⟨hkey, hnone⟩ := List.forall_mem_cons.1 hnone
      refine hrest.default g hg ?_ hnone
      rw [List.mem_cons, not_or]
      exact ⟨h.name_ne hg hf fun hgf => hkey (hgf ▸ hspelled), hgiven⟩

/-- The members say what every field is. -/
theorem Gives.unique (h : s.Lawful) {a b value' : σ} (ha : s.Gives [] value members a)
    (hb : s.Gives [] value' members b) : a = b := by
  refine h.ext a b fun f hf => ?_
  by_cases hm : ∃ m ∈ members, m.1 ∈ spellings f
  · obtain ⟨m, hm, hspelled⟩ := hm
    have := (ha.read m hm f hf hspelled).symm.trans (hb.read m hm f hf hspelled)
    exact Except.ok.inj this
  · have hnone : ∀ m ∈ members, m.1 ∉ spellings f := fun m hm' hspelled => hm ⟨m, hm', hspelled⟩
    rw [ha.default f hf List.not_mem_nil hnone, hb.default f hf List.not_mem_nil hnone]

/-- A table gives a value exactly if its members are taken and the value is what they give. -/
theorem Lawful.readMembers_eq_ok_iff (h : s.Lawful) :
    s.readMembers [] value members = .ok result ↔
      ((∀ m ∈ members, s.Takes [] m) ∧ s.Once members) ∧ s.Gives [] value members result := by
  rw [← h.readMembers_isOk_iff]
  constructor
  · exact fun hr => ⟨⟨result, hr⟩, h.gives_of_readMembers hr⟩
  · rintro ⟨⟨result', hr⟩, hgives⟩
    rw [hr, (h.gives_of_readMembers hr).unique h hgives]

/-! ## Order and spelling -/

theorem Once.perm (hp : members.Perm others) (h : s.Once members) : s.Once others :=
  (hp.pairwise_iff fun hab f hf hb ha => hab f hf ha hb).1 h

theorem Gives.perm (hp : members.Perm others) (h : s.Gives given value members result) :
    s.Gives given value others result where
  read m hm := h.read m (hp.mem_iff.2 hm)
  kept := h.kept
  default f hf hnew hnone := h.default f hf hnew fun m hm => hnone m (hp.mem_iff.1 hm)

/-- The order of the members only matters for the first misfit. -/
theorem Lawful.readMembers_perm (h : s.Lawful) (hp : members.Perm others) :
    s.readMembers [] value members = .ok result ↔ s.readMembers [] value others = .ok result := by
  rw [h.readMembers_eq_ok_iff, h.readMembers_eq_ok_iff]
  refine and_congr (and_congr (forall_congr' fun m => imp_congr_left hp.mem_iff) ?_) ?_
  · exact ⟨Once.perm hp, Once.perm hp.symm⟩
  · exact ⟨Gives.perm hp, Gives.perm hp.symm⟩

/-- Both keys spell the same field, or neither spells any. -/
def SameField (s : Section σ) (a b : String) : Prop := ∀ f ∈ s.fields, a ∈ spellings f ↔ b ∈ spellings f

theorem takes_congr {other : String} (h : s.SameField key other) : s.Takes given (key, d) ↔ s.Takes given (other, d) :=
  exists_congr fun f => and_congr_right fun hf => and_congr_left' (h f hf)

theorem once_map_iff {rename : String → String} (h : ∀ m ∈ members, s.SameField m.1 (rename m.1)) :
    s.Once (members.map fun m => (rename m.1, m.2)) ↔ s.Once members := by
  unfold Once
  rw [List.pairwise_map]
  refine List.Pairwise.iff_of_mem fun ha hb => forall₂_congr fun f hf => ?_
  exact imp_congr (h _ ha f hf).symm (not_congr (h _ hb f hf).symm)

theorem gives_map_iff {rename : String → String} (h : ∀ m ∈ members, s.SameField m.1 (rename m.1)) :
    s.Gives given value (members.map fun m => (rename m.1, m.2)) result ↔ s.Gives given value members result := by
  constructor
  · intro hg
    refine ⟨fun m hm f hf hspelled => ?_, hg.kept, fun f hf hnew hnone => hg.default f hf hnew fun m hm => ?_⟩
    · exact hg.read _ (List.mem_map_of_mem hm) f hf ((h m hm f hf).1 hspelled)
    · obtain ⟨m', hm', rfl⟩ := List.mem_map.1 hm
      exact fun hspelled => hnone m' hm' ((h m' hm' f hf).2 hspelled)
  · intro hg
    refine ⟨fun m hm f hf hspelled => ?_, hg.kept, fun f hf hnew hnone => hg.default f hf hnew fun m hm => ?_⟩
    · obtain ⟨m', hm', rfl⟩ := List.mem_map.1 hm
      exact hg.read m' hm' f hf ((h m' hm' f hf).2 hspelled)
    · exact fun hspelled => hnone _ (List.mem_map_of_mem hm) ((h m hm f hf).1 hspelled)

/-- Which spelling of its field a member uses does not matter. -/
theorem Lawful.readMembers_map (h : s.Lawful) {rename : String → String}
    (hrename : ∀ m ∈ members, s.SameField m.1 (rename m.1)) :
    s.readMembers [] value (members.map fun m => (rename m.1, m.2)) = .ok result ↔
      s.readMembers [] value members = .ok result := by
  rw [h.readMembers_eq_ok_iff, h.readMembers_eq_ok_iff, once_map_iff hrename, gives_map_iff hrename,
    List.forall_mem_map]
  have htakes : ∀ m ∈ members, s.Takes [] (rename m.1, m.2) ↔ s.Takes [] m :=
    fun m hm => (takes_congr (hrename m hm)).symm
  rw [forall₂_congr htakes]

/-! ## What shows a value -/

theorem Lawful.names_nodup (h : s.Lawful) : (s.fields.map Field.name).Nodup := by
  refine List.Pairwise.map _ ?_ (List.nodup_flatMap.1 h.keys_nodup).2
  intro f g hdisjoint hname
  exact hdisjoint (name_mem_spellings f) (hname ▸ name_mem_spellings g)

/-- The members of the object that shows a value. -/
def shown (s : Section σ) (value : σ) : List (String × Json) :=
  s.fields.map fun f => (f.name, f.kind.view (f.get value))

theorem Lawful.shown_nodup (h : s.Lawful) (value : σ) : ((s.shown value).map Prod.fst).Nodup := by
  rw [shown, List.map_map]
  exact h.names_nodup

theorem Lawful.get?_toJson (h : s.Lawful) (hf : f ∈ s.fields) (value : σ) :
    (s.toJson value).get? f.name = some (f.kind.view (f.get value)) :=
  Json.get?_ofMembers_of_mem (h.shown_nodup value) (List.mem_map.2 ⟨f, hf, rfl⟩)

theorem ofJsonMembers_eq_map (ms : List (String × Json)) :
    Document.ofJsonMembers ms = ms.map fun m => (m.1, Document.ofJson m.2) := by
  induction ms with
  | nil => rfl
  | cons m ms ih => rw [Document.ofJsonMembers, ih, List.map_cons]

theorem once_shown (h : s.Lawful) (value : σ) : s.Once (Document.ofJsonMembers (s.shown value)) := by
  rw [Once, ofJsonMembers_eq_map, shown, List.map_map, List.pairwise_map]
  refine (h.names_nodup.of_map _).imp_of_mem ?_
  intro f g hf hg hne e he hfe hge
  have hf' := h.eq_of_spelled hf he (name_mem_spellings f) hfe
  exact hne (hf'.trans (h.eq_of_spelled hg he (name_mem_spellings g) hge).symm)

/-- What shows a value is read as this value. -/
theorem Lawful.read_toJson (h : s.Lawful)
    (hkinds : ∀ f ∈ s.fields, ∀ v, f.kind.read (.ofJson (f.kind.view v)) = .ok v) (exact : Bool) (start value : σ) :
    s.read exact start (.ofJson (s.toJson value)) = .ok value := by
  obtain ⟨listed, hlisted, hperm⟩ := Json.ofMembers_perm (h.shown_nodup value)
  have hdocuments : (Document.ofJsonMembers listed).Perm (Document.ofJsonMembers (s.shown value)) := by
    rw [ofJsonMembers_eq_map, ofJsonMembers_eq_map]
    exact hperm.map _
  have hmem : ∀ m ∈ Document.ofJsonMembers (s.shown value),
      ∃ f ∈ s.fields, m = (f.name, .ofJson (f.kind.view (f.get value))) := by
    intro m hm
    rw [ofJsonMembers_eq_map, shown, List.map_map] at hm
    obtain ⟨f, hf, rfl⟩ := List.mem_map.1 hm
    exact ⟨f, hf, rfl⟩
  rw [toJson, ← shown, hlisted]
  refine (h.readMembers_perm hdocuments).2 (h.readMembers_eq_ok_iff.2 ⟨⟨?_, once_shown h value⟩, ?_, ?_, ?_⟩)
  · intro m hm
    obtain ⟨f, hf, rfl⟩ := hmem m hm
    exact ⟨f, hf, name_mem_spellings f, List.not_mem_nil, _, hkinds f hf _⟩
  · intro m hm g hg hspelled
    obtain ⟨f, hf, rfl⟩ := hmem m hm
    cases h.eq_of_spelled hf hg (name_mem_spellings f) hspelled
    exact hkinds g hg _
  · exact fun f _ hgiven => absurd hgiven List.not_mem_nil
  · intro f hf _ hnone
    refine absurd (name_mem_spellings f) (hnone (f.name, .ofJson (f.kind.view (f.get value))) ?_)
    rw [ofJsonMembers_eq_map, shown, List.map_map]
    exact List.mem_map.2 ⟨f, hf, rfl⟩

end Section

end TemplateDebug
