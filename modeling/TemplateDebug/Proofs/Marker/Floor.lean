import TemplateDebug.Proofs.Marker.Mapping
/-!
# The last marker at or before a line

Halving gives what a scan from the end gives, also where several markers stand on one line: the last marker at or before
the line, and nothing where all stand after it. The markers of a source text are such a list, one on a line at most.
-/

namespace TemplateDebug.Marker

variable {markers : Array Marker} {line : Nat} {m : Marker}

theorem compiledLine_le_of_mem_take (hs : Ascending markers)
    (h : m ∈ markers.toList.take (countUpTo markers line)) : m.compiledLine ≤ line := by
  obtain ⟨i, hi, rfl⟩ := List.mem_take_iff_getElem.1 h
  have hsize : i < markers.size := by simpa using (Nat.lt_min.1 hi).2
  obtain ⟨m, hm, hle⟩ := (lt_countUpTo_iff hs hsize).1 (Nat.lt_min.1 hi).1
  rw [Array.getElem?_eq_getElem hsize] at hm
  cases hm
  exact hle

theorem lt_compiledLine_of_mem_drop (hs : Ascending markers)
    (h : m ∈ markers.toList.drop (countUpTo markers line)) : line < m.compiledLine := by
  obtain ⟨i, hi, rfl⟩ := List.mem_drop_iff_getElem.1 h
  have hsize : countUpTo markers line + i < markers.size := by simpa [Nat.add_comm] using hi
  by_contra hle
  have hat : AtOrBefore markers line (countUpTo markers line + i) :=
    ⟨_, Array.getElem?_eq_getElem hsize, Nat.not_lt.1 hle⟩
  have := (lt_countUpTo_iff hs hsize).2 hat
  omega

/-- A scan from the end passes the markers after the line and stops at the last one in front. -/
theorem findRev?_eq (hs : Ascending markers) :
    markers.findRev? (fun m => m.compiledLine ≤ line) =
      match countUpTo markers line with
      | 0 => none
      | n + 1 => markers[n]? := by
  have hafter :
      (markers.toList.drop (countUpTo markers line)).reverse.find? (fun m => m.compiledLine ≤ line) = none := by
    rw [List.find?_eq_none]
    intro m hm
    have := lt_compiledLine_of_mem_drop hs (List.mem_reverse.1 hm)
    simpa using this
  rw [Array.findRev?_eq_find?_reverse, ← Array.find?_toList, Array.toList_reverse,
    ← List.take_append_drop (countUpTo markers line) markers.toList, List.reverse_append, List.find?_append, hafter,
    Option.none_or]
  have hfront : ∀ m ∈ markers.toList.take (countUpTo markers line), m.compiledLine ≤ line := fun m hm =>
    compiledLine_le_of_mem_take hs hm
  have hbound := countUpTo_le markers line
  generalize countUpTo markers line = count at hfront hbound
  cases count with
  | zero => simp
  | succ n =>
    have hn : n < markers.size := Nat.lt_of_succ_le hbound
    have hlast : markers[n].compiledLine ≤ line :=
      hfront _ (List.mem_take_iff_getElem.2 ⟨n, Nat.lt_min.2 ⟨Nat.lt_succ_self n, hn⟩, by simp⟩)
    rw [List.take_succ_eq_append_getElem (show n < markers.toList.length from hn), List.reverse_append,
      List.reverse_singleton, List.singleton_append, Array.getElem_toList,
      List.find?_cons_of_pos (by simpa using hlast)]
    exact (Array.getElem?_eq_getElem hn).symm

/-- The line is mapped as a scan from the end maps it: to the last marker at or before it, and nowhere if all markers
stand after it. -/
structure MapsToFloor (markers : Array Marker) (line : Nat) : Prop where
  location : locationOf? markers line =
    (markers.findRev? fun m => m.compiledLine ≤ line).map fun m => ⟨m.templateLine, m.templateRef⟩
  none_iff : locationOf? markers line = none ↔ ∀ m ∈ markers, line < m.compiledLine

theorem Ascending.mapsToFloor (hs : Ascending markers) (line : Nat) : MapsToFloor markers line := by
  have hscan : locationOf? markers line =
      (markers.findRev? fun m => m.compiledLine ≤ line).map fun m => ⟨m.templateLine, m.templateRef⟩ := by
    rw [findRev?_eq hs, locationOf?]
    cases countUpTo markers line <;> rfl
  refine ⟨hscan, ?_⟩
  rw [hscan, Option.map_eq_none_iff, Array.findRev?_eq_find?_reverse, Array.find?_eq_none]
  simp

/-- The markers of a source text stand on lines of the text, each on a later one than those before it, and name lines of
templates. Of these markers, and of all that stand in the order of their lines, a line belongs to the last at or before
it. -/
theorem floor_mapping (text : String) {markers : Array Marker} (hs : Ascending markers) (line : Nat) :
    (Sorted (parse text) ∧ ∀ m ∈ parse text,
      0 < m.compiledLine ∧ m.compiledLine ≤ (Text.lines text.toList).length ∧ 0 < m.templateLine) ∧
      MapsToFloor (parse text) line ∧ MapsToFloor markers line := by
  refine ⟨⟨sorted_parse text, fun m hm => ?_⟩, (sorted_parse text).ascending.mapsToFloor line, hs.mapsToFloor line⟩
  exact ⟨compiledLine_pos_of_mem_parse hm, compiledLine_le_of_mem_parse hm, (templateLine_of_mem_parse hm).1⟩

namespace Sample

/-- Two markers on one line, between others. -/
def onOneLine : Array Marker :=
  #[⟨5, 1, some "/a.jsp"⟩, ⟨9, 2, some "/a.jsp"⟩, ⟨9, 3, some "/b.jsp"⟩, ⟨12, 4, some "/a.jsp"⟩]

end Sample

/-- Of two markers on one line, that line and those after it belong to the second. -/
theorem floor_mapping_onOneLine :
    Ascending Sample.onOneLine ∧
      locationOf? Sample.onOneLine 9 = some ⟨3, some "/b.jsp"⟩ ∧
      locationOf? Sample.onOneLine 11 = some ⟨3, some "/b.jsp"⟩ ∧ locationOf? Sample.onOneLine 4 = none := by
  have hs : Ascending Sample.onOneLine := by
    unfold Ascending
    decide
  have hfloor : ∀ line, MapsToFloor Sample.onOneLine line := fun line => (floor_mapping "" hs line).2.2
  refine ⟨hs, ?_, ?_, (hfloor 4).none_iff.2 (by decide)⟩
  · rw [(hfloor 9).location]
    decide
  · rw [(hfloor 11).location]
    decide

end TemplateDebug.Marker
