import TemplateDebug.Log.Filter
import TemplateDebug.Proofs.Path.Joined
/-!
# Directives of a filter

A text is read as a filter when every piece between its commas is a directive. Of the directives for one target the
last one counts, and they stand in one order, whatever order they were written in. So a text that follows another one
after a comma is read exactly when both are, and its directives replace those of the other for the same targets.
-/

namespace TemplateDebug.Log

/-! ## The order of directives -/

namespace Directive

variable {d e f : Directive}

theorem before_trans (hde : d.before e = true) (hef : e.before f = true) : d.before f = true := by
  unfold before at *
  cases hd : d.target with
  | none => simp [hd] at hde
  | some a =>
    cases he : e.target with
    | none => simp [he] at hef
    | some b =>
      cases hf : f.target with
      | none => rfl
      | some c =>
        simp only [hd, he, hf, Bool.or_eq_true, Bool.and_eq_true, decide_eq_true_eq, beq_iff_eq] at hde hef ⊢
        rcases hde with hab | ⟨hab, hlt⟩
        · left
          omega
        · rcases hef with hbc | ⟨hbc, hlt'⟩
          · left
            omega
          · exact .inr ⟨hab.trans hbc, String.lt_trans hlt' hlt⟩

/-- Directives for different targets stand in one order or the other. -/
theorem before_total (hne : d.target ≠ e.target) (h : d.before e = false) : e.before d = true := by
  unfold before at *
  cases hd : d.target with
  | none =>
    cases he : e.target with
    | none => exact absurd (hd.trans he.symm) hne
    | some b => rfl
  | some a =>
    cases he : e.target with
    | none => simp [hd, he] at h
    | some b =>
      simp only [hd, he, Bool.or_eq_false_iff, Bool.and_eq_false_iff, decide_eq_false_iff_not, beq_eq_false_iff_ne,
        Bool.or_eq_true, Bool.and_eq_true, decide_eq_true_eq, beq_iff_eq] at h ⊢
      by_cases hsize : a.utf8ByteSize < b.utf8ByteSize
      · exact .inl hsize
      · have hsame : a.utf8ByteSize = b.utf8ByteSize := by omega
        refine .inr ⟨hsame.symm, ?_⟩
        have hnot : ¬ b < a := h.2.resolve_left fun hdiff => hdiff hsame
        have hneq : a ≠ b := fun heq => hne (by rw [hd, he, heq])
        exact Decidable.byContradiction fun hle =>
          hneq (String.le_antisymm (String.not_lt.1 hnot) (String.not_lt.1 hle))

end Directive

namespace Filter

variable {d e : Directive} {ds es : List Directive} {f g : Filter}

/-- The directives stand in order, so no two have the same target. -/
def InOrder (f : Filter) : Prop := f.directives.Pairwise fun d e => d.before e = true

theorem mem_insertDirective : e ∈ insertDirective d ds ↔ e = d ∨ e ∈ ds := by
  induction ds with
  | nil => simp [insertDirective]
  | cons first ds ih =>
    rw [insertDirective]
    split
    · rw [List.mem_cons]
    · rw [List.mem_cons, ih, List.mem_cons, or_left_comm]

theorem pairwise_insertDirective (hnew : ∀ e ∈ ds, e.target ≠ d.target)
    (h : ds.Pairwise fun d e => d.before e = true) :
    (insertDirective d ds).Pairwise fun d e => d.before e = true := by
  induction ds with
  | nil => exact List.pairwise_singleton _ _
  | cons first ds ih =>
    obtain ⟨hfirst, h'⟩ := List.pairwise_cons.1 h
    rw [List.forall_mem_cons] at hnew
    rw [insertDirective]
    split
    · rename_i hbefore
      refine List.pairwise_cons.2 ⟨?_, h⟩
      intro e he
      rcases List.mem_cons.1 he with rfl | he
      · exact hbefore
      · exact Directive.before_trans hbefore (hfirst e he)
    · rename_i hnot
      refine List.pairwise_cons.2 ⟨?_, ih hnew.2 h'⟩
      intro e he
      rcases mem_insertDirective.1 he with rfl | he
      · exact Directive.before_total hnew.1.symm (Bool.not_eq_true _ ▸ hnot)
      · exact hfirst e he

theorem mem_insert : e ∈ (f.insert d).directives ↔ e = d ∨ e ∈ f.directives ∧ e.target ≠ d.target := by
  rw [insert, mem_insertDirective, List.mem_filter, decide_eq_true_iff]

theorem InOrder.insert (h : f.InOrder) (d : Directive) : (f.insert d).InOrder := by
  refine pairwise_insertDirective ?_ (List.Pairwise.filter _ h)
  intro e he
  exact of_decide_eq_true (List.mem_filter.1 he).2

/-! ## The last directive for a target -/

/-- No directive for the same target comes after this one. -/
def IsLast (d : Directive) (ds : List Directive) : Prop :=
  ∃ before after, ds = before ++ d :: after ∧ ∀ e ∈ after, e.target ≠ d.target

theorem isLast_cons_iff : IsLast d (e :: ds) ↔ IsLast d ds ∨ d = e ∧ ∀ e' ∈ ds, e'.target ≠ d.target := by
  constructor
  · rintro ⟨before, after, heq, hafter⟩
    cases before with
    | nil =>
      cases heq
      exact .inr ⟨rfl, hafter⟩
    | cons b before =>
      cases heq
      exact .inl ⟨before, after, rfl, hafter⟩
  · rintro (⟨before, after, rfl, hafter⟩ | ⟨rfl, hafter⟩)
    · exact ⟨e :: before, after, rfl, hafter⟩
    · exact ⟨[], ds, rfl, hafter⟩

/-- Where there is a directive for a target there is a last one. -/
theorem exists_isLast (h : e ∈ ds) : ∃ d, IsLast d ds ∧ d.target = e.target := by
  induction ds generalizing e with
  | nil => cases h
  | cons first ds ih =>
    by_cases hlater : ∃ e' ∈ ds, e'.target = e.target
    · obtain ⟨e', he', htarget⟩ := hlater
      obtain ⟨d, hlast, hd⟩ := ih he'
      exact ⟨d, isLast_cons_iff.2 (.inl hlast), hd.trans htarget⟩
    · rcases List.mem_cons.1 h with rfl | h
      · exact ⟨e, isLast_cons_iff.2 (.inr ⟨rfl, fun e' he' htarget => hlater ⟨e', he', htarget⟩⟩), rfl⟩
      · exact absurd ⟨e, h, rfl⟩ hlater

theorem IsLast.mem (h : IsLast d ds) : d ∈ ds := by
  obtain ⟨before, after, rfl, -⟩ := h
  simp

theorem mem_foldl_insert :
    d ∈ (ds.foldl insert f).directives ↔ IsLast d ds ∨ d ∈ f.directives ∧ ∀ e ∈ ds, e.target ≠ d.target := by
  induction ds generalizing f with
  | nil =>
    have hnone : ¬ IsLast d [] := by
      rintro ⟨before, after, heq, -⟩
      simp at heq
    simp [hnone]
  | cons e ds ih =>
    rw [List.foldl_cons, ih, mem_insert, isLast_cons_iff, or_assoc]
    refine or_congr_right ?_
    rw [or_and_right, List.forall_mem_cons, and_assoc, ne_comm]

theorem InOrder.foldl (h : f.InOrder) : (ds.foldl Filter.insert f).InOrder := by
  induction ds generalizing f with
  | nil => exact h
  | cons d ds ih => exact ih (h.insert d)

/-! ## Reading -/

/-- The filter that the directives make, one after the other. -/
def ofDirectives (ds : List Directive) : Filter := ds.foldl insert ⟨[]⟩

theorem mem_ofDirectives (ds : List Directive) : d ∈ (ofDirectives ds).directives ↔ IsLast d ds := by
  rw [ofDirectives, mem_foldl_insert]
  simp

theorem inOrder_ofDirectives (ds : List Directive) : (ofDirectives ds).InOrder := InOrder.foldl List.Pairwise.nil

/-- A target is in the filter exactly when one of the directives is for it. -/
theorem forall_mem_ofDirectives_iff {target : Option String} :
    (∀ e ∈ (ofDirectives ds).directives, e.target ≠ target) ↔ ∀ e ∈ ds, e.target ≠ target := by
  constructor
  · intro h e he htarget
    obtain ⟨d, hlast, hd⟩ := exists_isLast he
    exact h d ((mem_ofDirectives ds).2 hlast) (hd.trans htarget)
  · intro h e he
    exact h e ((mem_ofDirectives ds).1 he).mem

/-- The directives of a text, in the order in which it says them. -/
def directives? (s : String) : Option (List Directive) := (pieces s).mapM Directive.ofPiece?

theorem parse?_eq (s : String) : parse? s = (directives? s).map ofDirectives := rfl

theorem pieces_append_comma (s t : String) : pieces (s ++ "," ++ t) = pieces s ++ pieces t := by
  have hcomma : (s ++ "," ++ t).toList = s.toList ++ ',' :: t.toList := by simp
  rw [pieces, hcomma, Text.splitParts_append (decide_eq_true rfl), List.filter_append]
  rfl

/-- Two texts with a comma between them say the directives of both. -/
theorem directives?_append_comma (s t : String) :
    directives? (s ++ "," ++ t) = (directives? s).bind fun ds => (directives? t).map (ds ++ ·) := by
  rw [directives?, pieces_append_comma, List.mapM_append, directives?, directives?]
  cases (pieces s).mapM Directive.ofPiece? with
  | none => rfl
  | some ds => cases (pieces t).mapM Directive.ofPiece? <;> rfl

/-! ## One filter over another -/

/-- A filter with the directives of `g`, and with those of `f` for other targets. -/
structure Overrides (g f merged : Filter) : Prop where
  mem_iff : ∀ d, d ∈ merged.directives ↔
    d ∈ g.directives ∨ d ∈ f.directives ∧ ∀ e ∈ g.directives, e.target ≠ d.target
  inOrder : merged.InOrder

theorem overrides_ofDirectives (ds es : List Directive) :
    Overrides (ofDirectives es) (ofDirectives ds) (ofDirectives (ds ++ es)) where
  mem_iff d := by
    rw [forall_mem_ofDirectives_iff, mem_ofDirectives es, ← mem_foldl_insert, ofDirectives, ofDirectives,
      List.foldl_append]
  inOrder := inOrder_ofDirectives _

/-- What follows a text that cannot be read is not read either. -/
theorem parse?_append_comma_of_none {s : String} (h : parse? s = none) (t : String) :
    parse? (s ++ "," ++ t) = none := by
  rw [parse?_eq, Option.map_eq_none_iff] at h
  rw [parse?_eq, directives?_append_comma, h]
  rfl

theorem parse?_append_comma_of_none_right (s : String) {t : String} (h : parse? t = none) :
    parse? (s ++ "," ++ t) = none := by
  rw [parse?_eq, Option.map_eq_none_iff] at h
  rw [parse?_eq, directives?_append_comma, h]
  cases directives? s <;> rfl

/-- A text after another one overrides it. -/
theorem parse?_append_comma_of_some {s t : String} (hf : parse? s = some f) (hg : parse? t = some g) :
    ∃ merged, parse? (s ++ "," ++ t) = some merged ∧ Overrides g f merged := by
  obtain ⟨ds, hds, rfl⟩ := Option.map_eq_some_iff.1 (parse?_eq s ▸ hf)
  obtain ⟨es, hes, rfl⟩ := Option.map_eq_some_iff.1 (parse?_eq t ▸ hg)
  refine ⟨ofDirectives (ds ++ es), ?_, overrides_ofDirectives ds es⟩
  rw [parse?_eq, directives?_append_comma, hds, hes]
  rfl

/-! ## The filter of the settings -/

/-- The directives that the environment adds, unless they are blank. -/
def further? (environment : Option String) : Option String :=
  (environment.map fun s => String.ofList (Text.trim s.toList)).filter (!·.isEmpty)

/-- The filter when the level cannot be read, whatever else there is. -/
def fallback : Filter := ⟨[⟨none, some .info⟩]⟩

theorem ofSettings_eq (level : String) (environment : Option String) :
    ofSettings level environment =
      (((further? environment).bind fun s => parse? (directivesOfLevel level ++ "," ++ s)).or
        (parse? (directivesOfLevel level))).getD fallback := rfl

/-- A level that can be read counts, with the environment's directives over it where these can be read; a level that
cannot be read leaves plain `info`. -/
theorem ofSettings_cases (level : String) (environment : Option String) :
    (parse? (directivesOfLevel level) = none → ofSettings level environment = fallback) ∧
      ∀ f, parse? (directivesOfLevel level) = some f →
        ((further? environment).bind parse? = none → ofSettings level environment = f) ∧
          ∀ g, (further? environment).bind parse? = some g → Overrides g f (ofSettings level environment) := by
  rw [ofSettings_eq]
  constructor
  · intro hlevel
    rw [hlevel]
    cases further? environment with
    | none => rfl
    | some s => rw [Option.bind_some, parse?_append_comma_of_none hlevel s]; rfl
  · intro f hlevel
    rw [hlevel]
    cases further? environment with
    | none =>
      refine ⟨fun _ => rfl, ?_⟩
      intro g hg
      cases hg
    | some s =>
      simp only [Option.bind_some]
      constructor
      · intro hs
        rw [parse?_append_comma_of_none_right _ hs]
        rfl
      · intro g hg
        obtain ⟨merged, hmerged, hover⟩ := parse?_append_comma_of_some hlevel hg
        rw [hmerged]
        exact hover

/-- A level with directives for two targets, and an environment with one for one of these and a default. -/
theorem ofSettings_cases_overridden :
    parse? (directivesOfLevel "a=info,b=warn") = some ⟨[⟨some "b", some .warn⟩, ⟨some "a", some .info⟩]⟩ ∧
      (further? (some " a=trace,debug ")).bind parse? =
        some ⟨[⟨some "a", some .trace⟩, ⟨none, some .debug⟩]⟩ ∧
      Overrides ⟨[⟨some "a", some .trace⟩, ⟨none, some .debug⟩]⟩
        ⟨[⟨some "b", some .warn⟩, ⟨some "a", some .info⟩]⟩ (ofSettings "a=info,b=warn" (some " a=trace,debug ")) := by
  have hlevel : parse? (directivesOfLevel "a=info,b=warn") =
      some ⟨[⟨some "b", some .warn⟩, ⟨some "a", some .info⟩]⟩ := by decide +kernel
  have hfurther : (further? (some " a=trace,debug ")).bind parse? =
      some ⟨[⟨some "a", some .trace⟩, ⟨none, some .debug⟩]⟩ := by decide +kernel
  exact ⟨hlevel, hfurther, ((ofSettings_cases _ _).2 _ hlevel).2 _ hfurther⟩

/-- The environment's directives are dropped with a level that cannot be read. -/
theorem further_not_always_kept :
    ¬ ∀ (level : String) (environment : Option String) (g : Filter), parse? (directivesOfLevel level) = none →
      (further? environment).bind parse? = some g → ofSettings level environment = g := by
  intro h
  have hkept := h "a=bogus" (some "debug") ⟨[⟨none, some .debug⟩]⟩ (by decide +kernel) (by decide +kernel)
  have hfallback : ofSettings "a=bogus" (some "debug") = fallback := by decide +kernel
  rw [hfallback] at hkept
  exact absurd hkept (by decide)

end Filter

end TemplateDebug.Log
