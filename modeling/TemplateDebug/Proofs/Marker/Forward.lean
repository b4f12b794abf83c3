import Mathlib.Data.Prod.Lex
import Mathlib.Order.Bounds.Basic
import TemplateDebug.Proofs.Marker.Mapping
import TemplateDebug.Proofs.Template.Reference
/-!
# The line of a breakpoint

A breakpoint on a template line belongs to the greatest of the positions that the markers of the template give for this
line and those before it. So neither the order of the markers nor that of the references matters, and as the line
grows there are only more positions to choose from.
-/

namespace TemplateDebug

namespace Marker

variable {markers markers' : Array Marker} {refs refs' : List String} {line later : Nat} {m : Marker} {p : ℕ ×ₗ ℕ}

/-- One of the references is that of the marker, as it is or with its backslashes turned into slashes. -/
def NamedBy (refs : List String) (m : Marker) : Prop :=
  ∃ ref, m.templateRef = some ref ∧ (ref ∈ refs ∨ (ref.map fun c => if c = '\\' then '/' else c) ∈ refs)

/-- Where a breakpoint on the line may go: the template line and the compiled line of each marker that the references
name, for this line or one before it. A greater template line counts more than a greater compiled line. -/
def positions (markers : Array Marker) (refs : List String) (line : Nat) : Set (ℕ ×ₗ ℕ) :=
  {p | ∃ m ∈ markers, m.templateLine ≤ line ∧ NamedBy refs m ∧ toLex (m.templateLine, m.compiledLine) = p}

theorem namedBy_iff : NamedBy refs m ↔ Template.anyMatches refs m.templateRef = true := by
  unfold NamedBy Template.anyMatches
  cases m.templateRef with
  | none => simp
  | some ref =>
    simp only [Option.some.injEq, exists_eq_left', Option.any_some, List.any_eq_true, Template.refMatches_iff]
    constructor
    · rintro (hmem | hmem)
      · exact ⟨ref, hmem, .inl rfl⟩
      · exact ⟨Template.slashed ref, hmem, .inr rfl⟩
    · rintro ⟨candidate, hmem, rfl | rfl⟩
      · exact .inl hmem
      · exact .inr hmem

theorem mem_positions_iff :
    p ∈ positions markers refs line ↔
      ∃ m, Candidate markers refs line m ∧ toLex (m.templateLine, m.compiledLine) = p := by
  simp only [positions, Candidate, namedBy_iff, Set.mem_ofPred_eq, and_assoc]

/-- The greatest candidate stands at the greatest position. -/
theorem Greatest.isGreatest (h : Greatest markers refs line m) :
    IsGreatest (positions markers refs line) (toLex (m.templateLine, m.compiledLine)) := by
  constructor
  · exact mem_positions_iff.2 ⟨m, h.candidate, rfl⟩
  · intro p hp
    obtain ⟨m', hm', rfl⟩ := mem_positions_iff.1 hp
    rw [Prod.Lex.toLex_le_toLex]
    exact h.greatest m' hm'

/-- A breakpoint goes on the line after the greatest position. -/
theorem breakpointLine?_eq_some_iff (hlast : ∀ m ∈ markers, m.compiledLine < lastLine) {k : Nat} :
    breakpointLine? markers refs line = some k ↔
      ∃ p, IsGreatest (positions markers refs line) p ∧ k = (ofLex p).2 + 1 := by
  rcases breakpointLine?_cases hlast refs line with ⟨m, hm, hline⟩ | ⟨hnone, hline⟩
  · rw [hline, Option.some.injEq]
    constructor
    · rintro rfl
      exact ⟨_, hm.isGreatest, rfl⟩
    · rintro ⟨p, hp, rfl⟩
      rw [hp.unique hm.isGreatest]
      rfl
  · rw [hline]
    refine iff_of_false (by simp) ?_
    rintro ⟨p, hp, -⟩
    obtain ⟨m, hm, -⟩ := mem_positions_iff.1 hp.1
    exact hnone m hm

/-- Only where there is no position there is no line for a breakpoint. -/
theorem breakpointLine?_eq_none_iff (hlast : ∀ m ∈ markers, m.compiledLine < lastLine) :
    breakpointLine? markers refs line = none ↔ positions markers refs line = ∅ := by
  rw [Set.eq_empty_iff_forall_notMem]
  rcases breakpointLine?_cases hlast refs line with ⟨m, hm, hline⟩ | ⟨hnone, hline⟩
  · rw [hline]
    refine iff_of_false (by simp) ?_
    intro hempty
    exact hempty _ hm.isGreatest.1
  · refine iff_of_true hline ?_
    intro p hp
    obtain ⟨m, hm, -⟩ := mem_positions_iff.1 hp
    exact hnone m hm

theorem positions_congr (hmarkers : ∀ m, m ∈ markers' ↔ m ∈ markers) (hrefs : ∀ ref, ref ∈ refs' ↔ ref ∈ refs)
    (line : Nat) : positions markers' refs' line = positions markers refs line := by
  ext p
  simp only [positions, NamedBy, hmarkers, hrefs]

/-- A later line has the positions of an earlier one, too. -/
theorem positions_subset (h : line ≤ later) : positions markers refs line ⊆ positions markers refs later := by
  rintro p ⟨m, hm, hle, hnamed, hp⟩
  exact ⟨m, hm, hle.trans h, hnamed, hp⟩

/-- A breakpoint goes on the line after the greatest position, by template line and then by compiled line, of the
markers that the references name for its line or one before it, and nowhere just if there is none. The order of markers
and references and how often each is given do not matter. Where a line has a place, every later one has, and the
template line of the marker that it belongs to is no smaller. -/
theorem breakpointLine?_greatest (hlast : ∀ m ∈ markers, m.compiledLine < lastLine) (refs : List String) (line : Nat) :
    (∀ k, breakpointLine? markers refs line = some k ↔
        ∃ p, IsGreatest (positions markers refs line) p ∧ k = (ofLex p).2 + 1) ∧
      (breakpointLine? markers refs line = none ↔ positions markers refs line = ∅) ∧
      (∀ (markers' : Array Marker) (refs' : List String), (∀ m, m ∈ markers' ↔ m ∈ markers) →
        (∀ ref, ref ∈ refs' ↔ ref ∈ refs) → breakpointLine? markers' refs' line = breakpointLine? markers refs line) ∧
      ∀ later, line ≤ later → ∀ p, IsGreatest (positions markers refs line) p →
        ∃ q, IsGreatest (positions markers refs later) q ∧ (ofLex p).1 ≤ (ofLex q).1 ∧
          breakpointLine? markers refs later = some ((ofLex q).2 + 1) := by
  refine ⟨fun k => breakpointLine?_eq_some_iff hlast, breakpointLine?_eq_none_iff hlast, ?_, ?_⟩
  · intro markers' refs' hmarkers hrefs
    have hlast' : ∀ m ∈ markers', m.compiledLine < lastLine := fun m hm => hlast m ((hmarkers m).1 hm)
    apply Option.ext
    intro k
    rw [breakpointLine?_eq_some_iff hlast, breakpointLine?_eq_some_iff hlast', positions_congr hmarkers hrefs]
  · intro later hle p hp
    have hmem : p ∈ positions markers refs later := positions_subset hle hp.1
    rcases breakpointLine?_cases hlast refs later with ⟨m, hm, hline⟩ | ⟨hnone, -⟩
    · have hle' : p ≤ toLex (m.templateLine, m.compiledLine) := hm.isGreatest.2 hmem
      exact ⟨_, hm.isGreatest, Prod.Lex.monotone_fst _ _ hle', hline⟩
    · obtain ⟨m, hm, -⟩ := mem_positions_iff.1 hmem
      exact absurd hm (hnone m)

namespace Sample

/-- Markers out of order: of two templates, one with a backslash, two for one line, and a bare one. -/
def scattered : Array Marker :=
  #[⟨9, 4, some "/a.jsp"⟩, ⟨3, 7, some "/b.jsp"⟩, ⟨12, 2, some "\\a.jsp"⟩, ⟨5, 4, some "\\a.jsp"⟩, ⟨20, 5, none⟩]

end Sample

/-- Line 6 belongs to the later of the two markers for line 4, and line 3 to one with a backslash. A reference with a
backslash names only the markers that have it. -/
theorem breakpointLine?_greatest_scattered :
    breakpointLine? Sample.scattered ["/a.jsp"] 6 = some 10 ∧
      breakpointLine? Sample.scattered ["/a.jsp"] 3 = some 13 ∧
      breakpointLine? Sample.scattered ["\\a.jsp"] 6 = some 6 ∧
      breakpointLine? Sample.scattered.reverse ["a.jsp", "/a.jsp"] 6 =
        breakpointLine? Sample.scattered ["/a.jsp", "a.jsp", "/a.jsp"] 6 := by
  have hlast : ∀ m ∈ Sample.scattered, m.compiledLine < lastLine := by decide
  obtain ⟨-, -, hsame, -⟩ := breakpointLine?_greatest hlast ["/a.jsp", "a.jsp", "/a.jsp"] 6
  refine ⟨by decide +kernel, by decide +kernel, by decide +kernel,
    hsame _ _ (fun m => Array.mem_reverse) (fun ref => ?_)⟩
  simp only [List.mem_cons]
  tauto

end Marker

end TemplateDebug
