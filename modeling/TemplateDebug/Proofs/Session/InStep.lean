import TemplateDebug.Proofs.Session.Edits
import TemplateDebug.Proofs.Session.Redirects
/-!
# Two lists of lines in step

A request may list its lines twice: in its breakpoints, and once more as bare lines. The lists are redirected apart, and
only the first leaves out line zero. The markers of a source text stand for lines from one on, so where the lists have
one value they have one value afterwards, too.
-/

namespace TemplateDebug.Session

/-- The line, as written, of the breakpoint that a request lists at a place. -/
def breakpointLineAt? (message : Json) (i : Nat) : Option Json :=
  ((askedItems? "breakpoints" message).bind fun items => items[i]?).bind (·.get? "line")

/-- The bare line, as written, that a request lists at a place. -/
def bareLineAt? (message : Json) (i : Nat) : Option Json := (askedItems? "lines" message).bind fun items => items[i]?

/-- The value is an integer from one to the last line. -/
def IsLineNumber (value : Json) : Prop := ∃ line : Nat, value = .int line ∧ 0 < line ∧ line ≤ lastLine

variable {target? : Nat → Option Nat} {machines : Set (Host (StateM Clock))} {machine : Host (StateM Clock)}
  {history : List Passage} {s : Session} {b value : Json}

/-! ## One item -/

/-- Where line zero is not mapped, leaving it out makes no difference. -/
theorem bind_filter_pos (hzero : target? 0 = none) (line? : Option Nat) :
    (line?.filter (0 < ·)).bind target? = line?.bind target? := by
  cases line? with
  | none => rfl
  | some line =>
    rcases Nat.eq_zero_or_pos line with rfl | hpos
    · exact hzero.symm
    · simp [Option.filter, hpos]

/-- The line of a breakpoint becomes what the same value becomes as a bare line. -/
theorem get?_line_redirectBreakpoint (hzero : target? 0 = none) (h : b.get? "line" = some value) :
    ((redirectBreakpoint? target? b).getD b).get? "line" = some ((redirectLine? target? value).getD value) := by
  have hline : (Dap.lineOf? b "line").bind target? = (Dap.word? value).bind target? := by
    rw [Dap.lineOf?, h, Option.bind_some, bind_filter_pos hzero]
  rw [redirectBreakpoint?, hline, redirectLine?]
  cases (Dap.word? value).bind target? with
  | none => exact h
  | some k => exact Json.get?_set (Json.isObject_of_get? h)

/-- What is no line number stays. -/
theorem redirectLine?_of_not_lineNumber (hzero : target? 0 = none) (h : ¬ IsLineNumber value) :
    redirectLine? target? value = none := by
  rw [redirectLine?_eq_none_iff]
  intro line hword
  obtain ⟨rfl, hle⟩ := Dap.eq_int_of_word? hword
  rcases Nat.eq_zero_or_pos line with rfl | hpos
  · exact hzero
  · exact absurd ⟨line, rfl, hpos, hle⟩ h

/-! ## Requests -/

/-- Whatever a session has met and whatever the machine answers, where the two lists of a request have one value they
have one value when it goes on, and the same one if the value is no line number. -/
theorem lines_in_step (h : Met machines history s) (hm : machine ∈ machines) (message : Json) (clock : Clock) (i : Nat)
    (hbreakpoint : breakpointLineAt? message i = some value) (hbare : bareLineAt? message i = some value) :
    ∃ value', breakpointLineAt? (Relay.pass machine .client message s clock).1.1 i = some value' ∧
      bareLineAt? (Relay.pass machine .client message s clock).1.1 i = some value' ∧
      (¬ IsLineNumber value → value' = value) := by
  have houtcome := h.outcome hm .client message clock
  generalize (Relay.pass machine .client message s clock).1.1 = out at houtcome ⊢
  generalize (Relay.pass machine .client message s clock).1.2.pending = pending at houtcome
  cases houtcome with
  | kept => exact ⟨value, hbreakpoint, hbare, fun _ => rfl⟩
  | redirected enabled numbered has redirected =>
    obtain ⟨template, compiled, markers, refs, -, -, -, hgiven, -, rfl, -⟩ := redirected
    obtain ⟨text, rfl⟩ := MarkerCache.Given.exists_parse hgiven
    have hzero : Marker.breakpointLine? (Marker.parse text) refs 0 = none := breakpointLine?_zero text
    refine ⟨(redirectLine? (Marker.breakpointLine? (Marker.parse text) refs) value).getD value, ?_, ?_, ?_⟩
    · obtain ⟨b, hb, hline⟩ := Option.bind_eq_some_iff.1 hbreakpoint
      obtain ⟨items, hitems, hi⟩ := Option.bind_eq_some_iff.1 hb
      rw [askedItems?, has, Option.bind_some] at hitems
      rw [breakpointLineAt?, askedItems?_set has, listed?_breakpoints_redirectArguments, hitems]
      simp [hi, get?_line_redirectBreakpoint hzero hline]
    · obtain ⟨items, hitems, hi⟩ := Option.bind_eq_some_iff.1 hbare
      rw [askedItems?, has, Option.bind_some] at hitems
      rw [bareLineAt?, askedItems?_set has, listed?_lines_redirectArguments, hitems]
      simp [hi]
    · intro hno
      rw [redirectLine?_of_not_lineNumber hzero hno, Option.getD_none]

namespace Sample

/-- A request for a line that has a marker and for line zero, each listed twice. -/
def listedTwice : Json :=
  .obj [("arguments", .obj [("breakpoints", .arr [.obj [("line", .int 1)], .obj [("line", .int 0)]]),
      ("lines", .arr [.int 1, .int 0]), ("source", .obj [("path", .str "/ws/a.jsp")])]),
    ("command", .str "setBreakpoints"), ("seq", .int 1), ("type", .str "request")]

end Sample

/-- The line with a marker moves in both lists, the other stays in both. -/
theorem lines_in_step_twice :
    let out :=
      (Relay.pass Sample.servlet.tickingHost .client Sample.listedTwice (Sample.session 0) (Stream'.const 0)).1.1
    breakpointLineAt? out 0 = some (.int 2) ∧ bareLineAt? out 0 = some (.int 2) ∧
      breakpointLineAt? out 1 = some (.int 0) ∧ bareLineAt? out 1 = some (.int 0) := by
  have hmet : Met {Sample.servlet.tickingHost} [] (Sample.session 0) := .fresh _ _ _
  have hmem : Sample.servlet.tickingHost ∈ ({Sample.servlet.tickingHost} : Set (Host (StateM Clock))) :=
    Set.mem_singleton _
  have hone : breakpointLineAt? Sample.listedTwice 0 = some (.int 1) := rfl
  have hzero : breakpointLineAt? Sample.listedTwice 1 = some (.int 0) := rfl
  obtain ⟨first, hfirst, hbareFirst, -⟩ := lines_in_step hmet hmem Sample.listedTwice (Stream'.const 0) 0 hone rfl
  obtain ⟨second, hsecond, hbareSecond, hstays⟩ :=
    lines_in_step hmet hmem Sample.listedTwice (Stream'.const 0) 1 hzero rfl
  have hmoved : some first = some (.int 2) := hfirst.symm.trans (by decide +kernel)
  have hkept : second = .int 0 := hstays (by rintro ⟨line, hline, hpos, -⟩; cases hline; exact absurd hpos (by decide))
  exact ⟨hfirst.trans hmoved, hbareFirst.trans hmoved, hkept ▸ hsecond, hkept ▸ hbareSecond⟩

end TemplateDebug.Session
