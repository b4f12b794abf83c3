import TemplateDebug.Dap.Message
import TemplateDebug.Proofs.Entries
/-!
# Members after a change

Setting or erasing one member of an object leaves the others to be read as before. The laws hold for any list of
members, sorted or not, and for values that are no objects, which a change leaves alone.
-/

namespace TemplateDebug.Json

variable {key other : String} {value : Json}

theorem lookup_insertMember (ms : List (String × Json)) :
    (insertMember key value ms).lookup key = some value := by
  induction ms with
  | nil => simp [insertMember]
  | cons m ms ih =>
    obtain ⟨k, v⟩ := m
    simp only [insertMember]
    split
    · simp
    · split
      · simp
      · rename_i hk _
        rw [List.lookup_cons, beq_false_of_ne hk, ih]

theorem lookup_insertMember_of_ne (h : other ≠ key) (ms : List (String × Json)) :
    (insertMember key value ms).lookup other = ms.lookup other := by
  induction ms with
  | nil => simp [insertMember, h]
  | cons m ms ih =>
    obtain ⟨k, v⟩ := m
    simp only [insertMember]
    split
    · rename_i hk
      subst hk
      simp only [List.lookup_cons, beq_false_of_ne h]
    · split
      · rw [List.lookup_cons, beq_false_of_ne h]
      · simp only [List.lookup_cons, ih]

/-! ## Reading after a change -/

/-- The value is an object. -/
def IsObject : Json → Prop
  | obj _ => True
  | _ => False

theorem isObject_of_get? {j : Json} (h : j.get? key = some value) : j.IsObject := by
  cases j <;> simp_all [get?, IsObject]

theorem get?_set {j : Json} (h : j.IsObject) : (j.set key value).get? key = some value := by
  cases j with
  | obj ms => exact lookup_insertMember ms
  | _ => exact h.elim

theorem get?_set_of_ne (h : other ≠ key) (j : Json) : (j.set key value).get? other = j.get? other := by
  cases j with
  | obj ms => exact lookup_insertMember_of_ne h ms
  | _ => rfl

theorem get?_erase_of_ne (h : other ≠ key) (j : Json) : (j.erase key).get? other = j.get? other := by
  cases j with
  | obj ms => exact lookup_filter_of_ne h ms
  | _ => rfl

theorem isObject_set {j : Json} (h : j.IsObject) : (j.set key value).IsObject := by
  cases j with
  | obj ms => trivial
  | _ => exact h.elim

end TemplateDebug.Json

/-! ## Lines and sources -/

namespace TemplateDebug.Dap

variable {j : Json} {p : Path} {text : String} {line : Nat}

theorem isObject_of_lineOf? {key : String} (h : lineOf? j key = some line) : j.IsObject := by
  cases hg : j.get? key with
  | none => simp [lineOf?, hg] at h
  | some v => exact Json.isObject_of_get? hg

theorem word?_int {n : Nat} (h : n ≤ lastLine) : word? (.int n) = some n := by
  simp [word?, Json.nat?, Int.toNat?, Option.filter, h]

theorem lineOf?_setLine (hj : j.IsObject) (h0 : 0 < line) (h : line ≤ lastLine) :
    lineOf? (setLine line j) "line" = some line := by
  simp [lineOf?, setLine, Json.get?_set hj, word?_int h, Option.filter, h0]

theorem get?_source_setLine (line : Nat) (j : Json) : (setLine line j).get? "source" = j.get? "source" :=
  Json.get?_set_of_ne (by decide) j

theorem sourcePath?_setLine (j : Json) (line : Nat) : sourcePath? (setLine line j) = sourcePath? j := by
  simp [sourcePath?, get?_source_setLine]

theorem get?_setSource_of_ne {key : String} (h : key ≠ "source") (p : Path) (j : Json) :
    (setSource p j).get? key = j.get? key := by
  simp only [setSource]
  split
  · exact Json.get?_set_of_ne h j
  · rfl

theorem lineOf?_setSource (p : Path) (j : Json) : lineOf? (setSource p j) "line" = lineOf? j "line" := by
  simp [lineOf?, get?_setSource_of_ne (show "line" ≠ "source" by decide)]

theorem get?_path_setSourcePath {source : Json} (h : source.IsObject) (p : Path) :
    (setSourcePath p source).get? "path" = some (.str p.text) := by
  simp only [setSourcePath]
  rw [Json.get?_erase_of_ne (by decide)]
  apply Json.get?_set
  cases p.fileName? with
  | none => exact h
  | some name => exact Json.isObject_set h

/-- Only an object takes a path. -/
theorem get?_path_setSourcePath_of_not_object {source : Json} (h : ¬ source.IsObject) (p : Path) :
    (setSourcePath p source).get? "path" = none := by
  cases source with
  | obj ms => exact absurd trivial h
  | _ => unfold setSourcePath; split <;> rfl

/-- What has a source has the new one after its source is set. -/
theorem get?_source_setSource (p : Path) (j : Json) :
    (setSource p j).get? "source" = (j.get? "source").map (setSourcePath p) := by
  unfold setSource
  cases hs : j.get? "source" with
  | none => exact hs
  | some source => exact Json.get?_set (Json.isObject_of_get? hs)

theorem sourcePath?_setSource_of_object {source : Json} (hs : j.get? "source" = some source) (ho : source.IsObject)
    (p : Path) : sourcePath? (setSource p j) = some p.text := by
  simp [sourcePath?, get?_source_setSource, hs, get?_path_setSourcePath ho, Json.str?]

theorem sourcePath?_setSource (h : sourcePath? j = some text) (p : Path) :
    sourcePath? (setSource p j) = some p.text := by
  obtain ⟨_, hpath, -⟩ := Option.bind_eq_some_iff.1 h
  obtain ⟨source, hs, hp⟩ := Option.bind_eq_some_iff.1 hpath
  exact sourcePath?_setSource_of_object hs (Json.isObject_of_get? hp) p

/-- A number that fits the line numbers is an integer. -/
theorem eq_int_of_word? (h : word? j = some line) : j = .int line ∧ line ≤ lastLine := by
  obtain ⟨hnat, hle⟩ := Option.filter_eq_some_iff.1 h
  refine ⟨?_, of_decide_eq_true hle⟩
  cases j with
  | int n =>
    cases n with
    | ofNat n =>
      cases hnat
      rfl
    | negSucc n => cases hnat
  | _ => cases hnat

/-- A line number is an integer from one to the last line. -/
theorem get?_of_lineOf? {key : String} (h : lineOf? j key = some line) :
    j.get? key = some (.int line) ∧ 0 < line ∧ line ≤ lastLine := by
  obtain ⟨hword, hpos⟩ := Option.filter_eq_some_iff.1 h
  obtain ⟨value, hv, hw⟩ := Option.bind_eq_some_iff.1 hword
  obtain ⟨rfl, hle⟩ := eq_int_of_word? hw
  exact ⟨hv, of_decide_eq_true hpos, hle⟩

end TemplateDebug.Dap
