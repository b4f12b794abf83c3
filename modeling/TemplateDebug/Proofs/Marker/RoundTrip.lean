import Mathlib.Data.List.Nodup
import TemplateDebug.Proofs.Marker.Mapping
/-!
# From a template line to the compiled source and back

A breakpoint goes on the line after the marker that its template line belongs to. That line belongs to this marker
again, unless another marker stands on it: then the way back leads to that one, wherever it points. It leads to the
template and not before the chosen marker exactly when the other marker is one of the template, too, for a later line
than the one asked for.
-/

namespace TemplateDebug.Marker

variable {markers : Array Marker} {line : Nat} {m found : Marker} {refs : List String}

/-- A line with a marker belongs to that marker. -/
theorem locationOf?_of_marker (hs : Sorted markers) (hm : m ∈ markers) (h : m.compiledLine = line) :
    locationOf? markers line = some ⟨m.templateLine, m.templateRef⟩ := by
  apply locationOf?_eq hs hm (Nat.le_of_eq h)
  intro m' _ hle
  omega

/-- The line after a marker belongs to the marker that stands there, or else to the one before. -/
theorem locationOf?_succ_cases (hs : Sorted markers) (hm : m ∈ markers) :
    ∃ found ∈ markers, locationOf? markers (m.compiledLine + 1) = some ⟨found.templateLine, found.templateRef⟩ ∧
      (found.compiledLine = m.compiledLine + 1 ∨
        found = m ∧ ∀ m' ∈ markers, m'.compiledLine ≠ m.compiledLine + 1) := by
  by_cases hnext : ∃ m' ∈ markers, m'.compiledLine = m.compiledLine + 1
  · obtain ⟨m', hm', hline⟩ := hnext
    exact ⟨m', hm', locationOf?_of_marker hs hm' hline, .inl hline⟩
  · have halone : ∀ m' ∈ markers, m'.compiledLine ≠ m.compiledLine + 1 := by
      intro m' hm' hline
      exact hnext ⟨m', hm', hline⟩
    exact ⟨m, hm, locationOf?_succ hs hm halone, .inr ⟨rfl, halone⟩⟩

/-- A marker of the template that stands after the chosen one and not for an earlier line stands for a later line than
the one asked for. -/
theorem lt_of_chosen?_of_after (h : chosen? markers refs line = some m) (hfound : found ∈ markers)
    (hafter : m.compiledLine < found.compiledLine) (hle : m.templateLine ≤ found.templateLine)
    (href : Template.anyMatches refs found.templateRef = true) : line < found.templateLine := by
  by_contra hnot
  obtain ⟨-, hmax⟩ := chosen?_spec h
  have hat := (atMost_iff found m).1 (hmax found ⟨hfound, Nat.not_lt.1 hnot, href⟩)
  omega

/-- Markers of a text that stand on one line are one marker. -/
theorem eq_of_compiledLine_eq (hs : Sorted markers) {a b : Marker} (ha : a ∈ markers) (hb : b ∈ markers)
    (h : a.compiledLine = b.compiledLine) : a = b := by
  have hnodup : (markers.toList.map Marker.compiledLine).Nodup :=
    List.pairwise_map.2 (hs.imp fun hlt => Nat.ne_of_lt hlt)
  exact List.inj_on_of_nodup_map hnodup (Array.mem_toList_iff.2 ha) (Array.mem_toList_iff.2 hb) h

/-- A template line that is mapped to the compiled source is mapped back to the marker that was chosen for it, or to the
marker that stands on the compiled line itself. The way back leads to the template, and not before the chosen marker,
exactly when no marker stands on the compiled line, or one of the template for a later line than the one asked for. -/
theorem locationOf?_breakpointLine? {text : String} {k : Nat} (h : breakpointLine? (parse text) refs line = some k) :
    ∃ m, chosen? (parse text) refs line = some m ∧ k = m.compiledLine + 1 ∧
      ∃ found ∈ parse text, locationOf? (parse text) k = some ⟨found.templateLine, found.templateRef⟩ ∧
        (found.compiledLine = k ∨ found = m ∧ ∀ m' ∈ parse text, m'.compiledLine ≠ k) ∧
        (m.templateLine ≤ found.templateLine ∧ Template.anyMatches refs found.templateRef = true ↔
          ∀ m' ∈ parse text, m'.compiledLine = k →
            line < m'.templateLine ∧ Template.anyMatches refs m'.templateRef = true) := by
  have hs := sorted_parse text
  unfold breakpointLine? at h
  obtain ⟨m, hm, hk⟩ := Option.bind_eq_some_iff.1 h
  split at hk
  · cases hk
    obtain ⟨⟨hmem, hle, href⟩, -⟩ := chosen?_spec hm
    obtain ⟨found, hfound, hback, hwhere⟩ := locationOf?_succ_cases hs hmem
    refine ⟨m, hm, rfl, found, hfound, hback, hwhere, ?_⟩
    rcases hwhere with hthere | ⟨rfl, halone⟩
    · constructor
      · rintro ⟨hline, hmatch⟩ m' hm' hm'there
        have hsame : m' = found := eq_of_compiledLine_eq hs hm' hfound (by omega)
        subst hsame
        exact ⟨lt_of_chosen?_of_after hm hm' (by omega) hline hmatch, hmatch⟩
      · intro hall
        obtain ⟨hlt, hmatch⟩ := hall found hfound hthere
        exact ⟨by omega, hmatch⟩
    · constructor
      · intro _ m' hm' hthere
        exact absurd hthere (halone m' hm')
      · intro _
        exact ⟨Nat.le_refl _, href⟩
  · cases hk

namespace Sample

/-- Two markers of a template on neighbouring lines, in the order of the template. -/
def inOrder : String := "// line 2 \"/a.jsp\"\n// line 5 \"/a.jsp\"\n"

/-- The same markers, the later one for the earlier line of the template. -/
def outOfOrder : String := "// line 5 \"/a.jsp\"\n// line 2 \"/a.jsp\"\n"

end Sample

/-- Line 3 belongs to the marker for line 2 and is sent to the line of the marker for line 5, from which it comes back
as line 5. -/
theorem locationOf?_breakpointLine?_inOrder :
    breakpointLine? (parse Sample.inOrder) ["/a.jsp"] 3 = some 2 ∧
      ∃ m found : Marker, chosen? (parse Sample.inOrder) ["/a.jsp"] 3 = some m ∧
        locationOf? (parse Sample.inOrder) 2 = some ⟨found.templateLine, found.templateRef⟩ ∧
        m.templateLine ≤ found.templateLine ∧ Template.anyMatches ["/a.jsp"] found.templateRef = true := by
  have hforward : breakpointLine? (parse Sample.inOrder) ["/a.jsp"] 3 = some 2 := by decide +kernel
  obtain ⟨m, hm, -, found, -, hback, -, hiff⟩ := locationOf?_breakpointLine? hforward
  obtain ⟨hle, href⟩ := hiff.2 (by decide +kernel)
  exact ⟨hforward, m, found, hm, hback, hle, href⟩

/-- The way back may lead before the marker that was chosen. -/
theorem breakpointLine?_not_always_kept :
    ¬ ∀ (text : String) (refs : List String) (line k : Nat), breakpointLine? (parse text) refs line = some k →
      ∃ m location, chosen? (parse text) refs line = some m ∧ locationOf? (parse text) k = some location ∧
        m.templateLine ≤ location.line ∧ Template.anyMatches refs location.templateRef = true := by
  intro h
  obtain ⟨m, location, hm, hback, hle, -⟩ := h Sample.outOfOrder ["/a.jsp"] 5 2 (by decide +kernel)
  have hchosen : chosen? (parse Sample.outOfOrder) ["/a.jsp"] 5 = some ⟨1, 5, some "/a.jsp"⟩ := by decide +kernel
  have hthere : locationOf? (parse Sample.outOfOrder) 2 = some ⟨2, some "/a.jsp"⟩ := by decide +kernel
  rw [hchosen] at hm
  rw [hthere] at hback
  cases hm
  cases hback
  exact absurd hle (by decide)

end TemplateDebug.Marker
