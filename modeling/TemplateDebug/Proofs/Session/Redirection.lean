import TemplateDebug.Proofs.Json.Members
import TemplateDebug.Proofs.Marker.Mapping
import TemplateDebug.Proofs.Session.Pending
/-!
# Redirected requests

A redirected request asks for the same breakpoints, in the same order, on its compiled source: those whose line can be
mapped are on the line that they are mapped to, the others stay on the line they had.
-/

namespace TemplateDebug

namespace Session

/-- The items of the list under `key`. -/
def listed? (key : String) (j : Json) : Option (List Json) := (j.get? key).bind Json.items?

variable {key other : String} {change? : Json → Option Json} {target? : Nat → Option Nat} {j : Json}

/-! ## Changed lists -/

theorem changeItems_eq (key : String) (change? : Json → Option Json) (j : Json) :
    changeItems key change? j =
      match listed? key j with
      | some items =>
        (j.set key (.arr (items.map fun i => (change? i).getD i)), items.countP fun i => (change? i).isSome)
      | none => (j, 0) := rfl

theorem listed?_changeItems (key : String) (change? : Json → Option Json) (j : Json) :
    listed? key (changeItems key change? j).1 = (listed? key j).map (·.map fun i => (change? i).getD i) := by
  rw [changeItems_eq]
  cases h : listed? key j with
  | none => simpa using h
  | some items =>
    obtain ⟨list, hl, -⟩ := Option.bind_eq_some_iff.1 h
    simp [listed?, Json.get?_set (Json.isObject_of_get? hl), Json.items?]

theorem get?_changeItems_of_ne (h : other ≠ key) (change? : Json → Option Json) (j : Json) :
    (changeItems key change? j).1.get? other = j.get? other := by
  rw [changeItems_eq]
  split
  · exact Json.get?_set_of_ne h j
  · rfl

theorem changeItems_snd (key : String) (change? : Json → Option Json) (j : Json) :
    (changeItems key change? j).2 = 0 ↔ ∀ i ∈ (listed? key j).getD [], change? i = none := by
  rw [changeItems_eq]
  cases listed? key j <;> simp [List.countP_eq_zero]

/-! ## Changed lines -/

/-- Lines stay within the line numbers. -/
def Bounded (target? : Nat → Option Nat) : Prop := ∀ line k, target? line = some k → 0 < k ∧ k ≤ lastLine

theorem lineOf?_redirectBreakpoint (h : Bounded target?) (b : Json) :
    Dap.lineOf? ((redirectBreakpoint? target? b).getD b) "line" =
      (Dap.lineOf? b "line").map fun line => (target? line).getD line := by
  unfold redirectBreakpoint?
  cases hl : Dap.lineOf? b "line" with
  | none => simpa using hl
  | some line =>
    cases ht : target? line with
    | none => simpa [ht] using hl
    | some k => simp [ht, Dap.lineOf?_setLine (Dap.isObject_of_lineOf? hl) (h line k ht).1 (h line k ht).2]

theorem word?_redirectLine (h : Bounded target?) (j : Json) :
    Dap.word? ((redirectLine? target? j).getD j) = (Dap.word? j).map fun line => (target? line).getD line := by
  unfold redirectLine?
  cases hl : Dap.word? j with
  | none => simpa using hl
  | some line =>
    cases ht : target? line with
    | none => simpa [ht] using hl
    | some k => simp [ht, Dap.word?_int (h line k ht).2]

theorem redirectBreakpoint?_eq_none_iff (b : Json) :
    redirectBreakpoint? target? b = none ↔ ∀ line, Dap.lineOf? b "line" = some line → target? line = none := by
  unfold redirectBreakpoint?
  cases Dap.lineOf? b "line" with
  | none => simp
  | some line => cases h : target? line <;> simp [h]

theorem redirectLine?_eq_none_iff (j : Json) :
    redirectLine? target? j = none ↔ ∀ line, Dap.word? j = some line → target? line = none := by
  unfold redirectLine?
  cases Dap.word? j with
  | none => simp
  | some line => cases h : target? line <;> simp [h]

/-! ## Arguments -/

/-- The lines of the breakpoints that arguments list. -/
def breakpointLines (arguments : Json) : List Nat :=
  ((listed? "breakpoints" arguments).getD []).filterMap (Dap.lineOf? · "line")

/-- The bare lines that arguments list. -/
def bareLines (arguments : Json) : List Nat := ((listed? "lines" arguments).getD []).filterMap Dap.word?

variable {markers : Array Marker} {refs : List String} {compiled : Path} {arguments : Json} {text : String}

theorem bounded_breakpointLine? : Bounded (Marker.breakpointLine? markers refs) :=
  fun _ _ h => Marker.breakpointLine?_bounds h

theorem listed?_breakpoints_redirectArguments :
    listed? "breakpoints" (redirectArguments markers refs compiled arguments).1 =
      (listed? "breakpoints" arguments).map
        (·.map fun b => (redirectBreakpoint? (Marker.breakpointLine? markers refs) b).getD b) := by
  have hsource : ∀ j, listed? "breakpoints" (Dap.setSource compiled j) = listed? "breakpoints" j := fun j => by
    simp only [listed?, Dap.get?_setSource_of_ne (show "breakpoints" ≠ "source" by decide)]
  have hlines : ∀ f j, listed? "breakpoints" (changeItems "lines" f j).1 = listed? "breakpoints" j := fun f j => by
    simp only [listed?, get?_changeItems_of_ne (show "breakpoints" ≠ "lines" by decide)]
  simp only [redirectArguments, hsource, hlines, listed?_changeItems]

theorem listed?_lines_redirectArguments :
    listed? "lines" (redirectArguments markers refs compiled arguments).1 =
      (listed? "lines" arguments).map
        (·.map fun j => (redirectLine? (Marker.breakpointLine? markers refs) j).getD j) := by
  have hsource : ∀ j, listed? "lines" (Dap.setSource compiled j) = listed? "lines" j := fun j => by
    simp only [listed?, Dap.get?_setSource_of_ne (show "lines" ≠ "source" by decide)]
  have hbreakpoints : ∀ f j, listed? "lines" (changeItems "breakpoints" f j).1 = listed? "lines" j := fun f j => by
    simp only [listed?, get?_changeItems_of_ne (show "lines" ≠ "breakpoints" by decide)]
  simp only [redirectArguments, hsource, listed?_changeItems, hbreakpoints]

theorem breakpointLines_redirectArguments :
    breakpointLines (redirectArguments markers refs compiled arguments).1 =
      (breakpointLines arguments).map fun line => (Marker.breakpointLine? markers refs line).getD line := by
  unfold breakpointLines
  rw [listed?_breakpoints_redirectArguments]
  cases listed? "breakpoints" arguments with
  | none => rfl
  | some items =>
    simp only [Option.map_some, Option.getD_some, List.filterMap_map, List.map_filterMap]
    refine List.filterMap_congr fun b _ => ?_
    exact lineOf?_redirectBreakpoint bounded_breakpointLine? b

theorem bareLines_redirectArguments :
    bareLines (redirectArguments markers refs compiled arguments).1 =
      (bareLines arguments).map fun line => (Marker.breakpointLine? markers refs line).getD line := by
  unfold bareLines
  rw [listed?_lines_redirectArguments]
  cases listed? "lines" arguments with
  | none => rfl
  | some items =>
    simp only [Option.map_some, Option.getD_some, List.filterMap_map, List.map_filterMap]
    refine List.filterMap_congr fun j _ => ?_
    exact word?_redirectLine bounded_breakpointLine? j

theorem sourcePath?_redirectArguments (h : Dap.sourcePath? arguments = some text) :
    Dap.sourcePath? (redirectArguments markers refs compiled arguments).1 = some compiled.text := by
  have hkept : ∀ key f j, key ≠ "source" → Dap.sourcePath? (changeItems key f j).1 = Dap.sourcePath? j := by
    intro key f j hne
    simp only [Dap.sourcePath?, get?_changeItems_of_ne hne.symm]
  unfold redirectArguments
  have hboth := (hkept "lines" (redirectLine? (Marker.breakpointLine? markers refs)) _ (by decide)).trans
    (hkept "breakpoints" (redirectBreakpoint? (Marker.breakpointLine? markers refs)) arguments (by decide))
  exact Dap.sourcePath?_setSource (hboth.trans h) compiled

/-- Nothing moves exactly when no line can be mapped. -/
theorem redirectArguments_snd_eq_zero_iff :
    (redirectArguments markers refs compiled arguments).2 = 0 ↔
      ∀ line ∈ breakpointLines arguments ++ bareLines arguments, Marker.breakpointLine? markers refs line = none := by
  have hlines : ∀ f, listed? "lines" (changeItems "breakpoints" f arguments).1 = listed? "lines" arguments := by
    intro f
    simp only [listed?, get?_changeItems_of_ne (show "lines" ≠ "breakpoints" by decide)]
  simp only [redirectArguments, Nat.add_eq_zero_iff, changeItems_snd, hlines, redirectBreakpoint?_eq_none_iff,
    redirectLine?_eq_none_iff, List.mem_append, breakpointLines, bareLines, List.mem_filterMap]
  constructor
  · rintro ⟨hb, hl⟩ line (⟨b, hmem, heq⟩ | ⟨j, hmem, heq⟩)
    · exact hb b hmem line heq
    · exact hl j hmem line heq
  · intro h
    exact ⟨fun b hmem line heq => h line (.inl ⟨b, hmem, heq⟩), fun j hmem line heq => h line (.inr ⟨j, hmem, heq⟩)⟩

/-! ## Requests -/

/-- The source that a request names. -/
def askedSource? (message : Json) : Option String := (message.get? "arguments").bind Dap.sourcePath?

theorem clientRoute_set_arguments (message arguments : Json) :
    clientRoute (message.set "arguments" arguments) = clientRoute message := by
  simp only [clientRoute, Dap.header?, Json.get?_set_of_ne (show "type" ≠ "arguments" by decide),
    Json.get?_set_of_ne (show "command" ≠ "arguments" by decide),
    Json.get?_set_of_ne (show "request_seq" ≠ "arguments" by decide),
    Json.get?_set_of_ne (show "success" ≠ "arguments" by decide)]

end Session

namespace Site

open Session

variable {site : Site} {disk : Disk} {message : Json} {template : Path}

/-- The template in the workspace that a request is for. -/
def template? (site : Site) (message : Json) : Option Path := (message.get? "arguments").bind site.templateOf?

/-- A request for a template names the template. -/
theorem askedSource?_of_template? (h : site.template? message = some template) :
    askedSource? message = some template.text ∧ Source.isTemplate template.text = true := by
  obtain ⟨arguments, ha, ht⟩ := Option.bind_eq_some_iff.1 h
  unfold templateOf? at ht
  obtain ⟨text, htext, hin⟩ := Option.bind_eq_some_iff.1 ht
  obtain ⟨hsource, htemplate⟩ := Option.filter_eq_some_iff.1 htext
  split at hin
  · cases hin
    exact ⟨by rw [askedSource?, ha]; exact hsource, htemplate⟩
  · cases hin

end Site

end TemplateDebug
