import TemplateDebug.Proofs.Json.Changes
import TemplateDebug.Proofs.Json.Order
import TemplateDebug.Proofs.Session.History
/-!
# What is edited in a message

A message goes on as it came but for lines and for what names a source. A request that sets breakpoints has them
edited in its arguments; a successful response to one, in its breakpoints; a successful stack trace, in its frames. Items
stay in their places, a line that is no line number stays, and where nothing is mapped nothing is edited.
-/

namespace TemplateDebug

namespace Session

open Relay (Side)
open Json (AgreeBut Under Within EachKeptOr within_set)

/-- The line was mapped: a line number to a line number. -/
structure LineMoved (target? : Nat → Option Nat) (value value' : Json) : Prop where
  mapped : ∃ line line', target? line = some line' ∧ value = .int line ∧ value' = .int line' ∧
    (0 < line ∧ line ≤ lastLine) ∧ 0 < line' ∧ line' ≤ lastLine

/-- A list is kept, or its items are, each as it is or changed as `R` says. -/
def ListKeptOr (R : Json → Json → Prop) (list list' : Json) : Prop :=
  list' = list ∨ ∃ items items', list = .arr items ∧ list' = .arr items' ∧ EachKeptOr R items items'

/-- The arguments of a request on its compiled source: at least one of their lines is mapped. -/
structure ArgumentsMoved (target? : Nat → Option Nat) (arguments arguments' : Json) : Prop where
  others : AgreeBut ["breakpoints", "lines", "source"] arguments arguments'
  breakpoints : Option.Rel (ListKeptOr (Within "line" (LineMoved target?)))
    (arguments.get? "breakpoints") (arguments'.get? "breakpoints")
  lines : Option.Rel (ListKeptOr (LineMoved target?)) (arguments.get? "lines") (arguments'.get? "lines")
  source : Under "source" Dap.SourceMoved arguments arguments'
  mapped : ∃ line ∈ breakpointLines arguments ++ bareLines arguments, (target? line).isSome

/-- A breakpoint or a frame in its template: its line is mapped by markers that a machine gave. -/
structure ItemMoved (machines : Set (Host (StateM Clock))) (item item' : Json) : Prop where
  others : AgreeBut ["line", "source"] item item'
  line : ∃ source markers, MarkerCache.Given machines source markers ∧
    Under "line" (LineMoved fun line => (Marker.locationOf? markers line).map (·.line)) item item'
  source : Option.Rel Dap.SourceMoved (item.get? "source") (item'.get? "source")

/-- A list in which at least one item is moved. -/
def ItemsMoved (machines : Set (Host (StateM Clock))) (list list' : Json) : Prop :=
  ∃ items items', list = .arr items ∧ list' = .arr items' ∧ EachKeptOr (ItemMoved machines) items items' ∧
    ∃ x ∈ items.zip items', ItemMoved machines x.1 x.2

/-- What can be edited in a message. -/
inductive Edited (machines : Set (Host (StateM Clock))) : Side → Json → Json → Prop where
  | request {message out : Json} {n : Int} {compiled : Path} {markers : Array Marker} {refs : List String}
      (numbered : requestSeq? message = some n) (given : MarkerCache.Given machines compiled markers)
      (within : Within "arguments" (ArgumentsMoved (Marker.breakpointLine? markers refs)) message out) :
      Edited machines .client message out
  | response {message out : Json} {n : Int} (route : adapterRoute message = .mapBack n true)
      (within : Within "body" (Within "breakpoints" (ItemsMoved machines)) message out) :
      Edited machines .adapter message out
  | trace {message out : Json} (route : adapterRoute message = .showTrace)
      (within : Within "body" (Within "stackFrames" (ItemsMoved machines)) message out) :
      Edited machines .adapter message out

variable {machines : Set (Host (StateM Clock))} {machine : Host (StateM Clock)} {history : List Passage} {s : Session}
  {webRoots : List Path} {markers : Array Marker} {refs : List String} {compiled : Path}

/-! ## Requests -/

/-- No marker of a source text names the line before the first. -/
theorem breakpointLine?_zero (text : String) : Marker.breakpointLine? (Marker.parse text) refs 0 = none := by
  unfold Marker.breakpointLine?
  cases hc : Marker.chosen? (Marker.parse text) refs 0 with
  | none => rfl
  | some m =>
    obtain ⟨⟨hmem, hle, -⟩, -⟩ := Marker.chosen?_spec hc
    have := (Marker.templateLine_of_mem_parse hmem).1
    omega

theorem within_redirectBreakpoint {b b' : Json}
    (h : redirectBreakpoint? (Marker.breakpointLine? markers refs) b = some b') :
    Within "line" (LineMoved (Marker.breakpointLine? markers refs)) b b' := by
  obtain ⟨line', hl, rfl⟩ := Option.map_eq_some_iff.1 h
  obtain ⟨line, hline, ht⟩ := Option.bind_eq_some_iff.1 hl
  obtain ⟨hget, hpos, hle⟩ := Dap.get?_of_lineOf? hline
  exact within_set hget ⟨line, line', ht, rfl, rfl, ⟨hpos, hle⟩, Marker.breakpointLine?_bounds ht⟩

theorem lineMoved_redirectLine (hparse : ∃ text, markers = Marker.parse text) {j j' : Json}
    (h : redirectLine? (Marker.breakpointLine? markers refs) j = some j') :
    LineMoved (Marker.breakpointLine? markers refs) j j' := by
  obtain ⟨text, rfl⟩ := hparse
  unfold redirectLine? at h
  cases hw : Dap.word? j with
  | none => simp [hw] at h
  | some line =>
    cases ht : Marker.breakpointLine? (Marker.parse text) refs line with
    | none => simp [hw, ht] at h
    | some line' =>
      obtain ⟨rfl, hle⟩ := Dap.eq_int_of_word? hw
      have hj' : j' = .int line' := by simpa [hw, ht] using h.symm
      have hpos : 0 < line := by
        rcases Nat.eq_zero_or_pos line with rfl | hpos
        · rw [breakpointLine?_zero] at ht
          cases ht
        · exact hpos
      exact ⟨line, line', ht, rfl, hj', ⟨hpos, hle⟩, Marker.breakpointLine?_bounds ht⟩

theorem eachKeptOr_map {R : Json → Json → Prop} {change? : Json → Option Json}
    (h : ∀ i i', change? i = some i' → R i i') (items : List Json) :
    EachKeptOr R items (items.map fun i => (change? i).getD i) := by
  refine List.forall₂_map_right_iff.2 (List.forall₂_same.2 fun i _ => ?_)
  cases hi : change? i with
  | none => exact .inl rfl
  | some i' => exact .inr (h i i' hi)

/-- The list of an object whose items are changed. -/
theorem rel_changeItems {R : Json → Json → Prop} {change? : Json → Option Json}
    (h : ∀ i i', change? i = some i' → R i i') (key : String) (j : Json) :
    Option.Rel (ListKeptOr R) (j.get? key) ((changeItems key change? j).1.get? key) := by
  rw [changeItems_eq]
  cases hl : listed? key j with
  | some items =>
    obtain ⟨list, hv, hitems⟩ := Option.bind_eq_some_iff.1 hl
    cases list with
    | arr items' =>
      cases hitems
      dsimp only
      rw [hv, Json.get?_set (Json.isObject_of_get? hv)]
      exact .some (.inr ⟨items, _, rfl, rfl, eachKeptOr_map h items⟩)
    | _ => cases hitems
  | none =>
    cases j.get? key with
    | none => exact .none
    | some list => exact .some (.inl rfl)

theorem agreeBut_changeItems {keys : List String} {key : String} (h : key ∈ keys) (change? : Json → Option Json)
    (j : Json) : AgreeBut keys j (changeItems key change? j).1 := by
  rw [changeItems_eq]
  split
  · exact Json.agreeBut_set h j _
  · rfl

theorem argumentsMoved_redirectArguments (hparse : ∃ text, markers = Marker.parse text) {arguments : Json}
    {text : String} (hsource : Dap.sourcePath? arguments = some text)
    (hmoved : (redirectArguments markers refs compiled arguments).2 ≠ 0) :
    ArgumentsMoved (Marker.breakpointLine? markers refs) arguments
      (redirectArguments markers refs compiled arguments).1 := by
  -- the three changes touch a member each
  obtain ⟨b, hb⟩ : ∃ b, b = (changeItems "breakpoints" (redirectBreakpoint? (Marker.breakpointLine? markers refs))
    arguments).1 := ⟨_, rfl⟩
  obtain ⟨l, hl⟩ : ∃ l, l = (changeItems "lines" (redirectLine? (Marker.breakpointLine? markers refs)) b).1 := ⟨_, rfl⟩
  have hout : (redirectArguments markers refs compiled arguments).1 = Dap.setSource compiled l := by
    rw [hl, hb]
    rfl
  have hkept : ∀ {key : String}, key ≠ "source" → key ≠ "lines" → (Dap.setSource compiled l).get? key = b.get? key := by
    intro key hs hlines
    rw [Dap.get?_setSource_of_ne hs, hl, get?_changeItems_of_ne hlines]
  rw [hout]
  constructor
  · have hbreakpoints : AgreeBut ["breakpoints", "lines", "source"] arguments b := by
      rw [hb]
      exact agreeBut_changeItems (by simp) _ _
    have hlines : AgreeBut ["breakpoints", "lines", "source"] b l := by
      rw [hl]
      exact agreeBut_changeItems (by simp) _ _
    exact (hbreakpoints.trans hlines).trans (Dap.agreeBut_setSource (by simp) _ _)
  · rw [hkept (by decide) (by decide), hb]
    exact rel_changeItems (fun _ _ => within_redirectBreakpoint) _ _
  · rw [Dap.get?_setSource_of_ne (by decide), hl,
      show arguments.get? "lines" = b.get? "lines" by rw [hb, get?_changeItems_of_ne (by decide)]]
    exact rel_changeItems (fun _ _ => lineMoved_redirectLine hparse) _ _
  · obtain ⟨_, hpath, -⟩ := Option.bind_eq_some_iff.1 hsource
    obtain ⟨source, hs, -⟩ := Option.bind_eq_some_iff.1 hpath
    refine ⟨source, Dap.setSourcePath compiled source, hs, ?_, Dap.sourceMoved_setSourcePath _ _⟩
    rw [Dap.get?_source_setSource, hl, get?_changeItems_of_ne (by decide), hb, get?_changeItems_of_ne (by decide), hs]
    rfl
  · -- what is counted is the lines that are mapped
    by_contra hnone
    refine hmoved (redirectArguments_snd_eq_zero_iff.2 fun line hline => ?_)
    cases ht : Marker.breakpointLine? markers refs line with
    | none => rfl
    | some k => exact absurd ⟨line, hline, by rw [ht]; rfl⟩ hnone

/-! ## Responses and stack traces -/

theorem Learnt.of_place?_eq_some {l : Learnt} {line : Nat} {place : Nat × String} (h : l.place? line = some place) :
    ∃ ms, l.markers = some ms ∧ Marker.locationOf? ms line = some ⟨place.1, some place.2⟩ := by
  obtain ⟨ms, hms, h⟩ := Option.bind_eq_some_iff.1 h
  obtain ⟨location, hloc, h⟩ := Option.bind_eq_some_iff.1 h
  obtain ⟨ref, href, rfl⟩ := Option.map_eq_some_iff.1 h
  obtain ⟨templateLine, templateRef⟩ := location
  cases href
  exact ⟨ms, hms, hloc⟩

/-- The line of an item in its template is that of a marker. -/
theorem Learnt.Of.lineMoved {l : Learnt} {source : Path} {line : Nat} {place : Nat × String}
    (h : l.Of (.answers machines webRoots) source line) (hpos : 0 < line ∧ line ≤ lastLine)
    (hplace : l.place? line = some place) :
    ∃ markers, MarkerCache.Given machines source markers ∧
      LineMoved (fun line => (Marker.locationOf? markers line).map (·.line)) (.int line) (.int place.1) := by
  obtain ⟨ms, hms, hlocation⟩ := of_place?_eq_some hplace
  have hgiven : MarkerCache.Given machines source ms := h.markers ms hms
  refine ⟨ms, hgiven, line, place.1, by rw [hlocation]; rfl, rfl, rfl, hpos, ?_⟩
  obtain ⟨text, rfl⟩ := hgiven.exists_parse
  obtain ⟨m, hm, heq⟩ := Marker.mem_of_locationOf? hlocation
  rw [show place.1 = m.templateLine from congrArg TemplateLocation.line heq]
  exact Marker.templateLine_of_mem_parse hm

theorem MappedBack.itemMoved {p : Pending} {b b' : Json} (h : MappedBack (.answers machines webRoots) p b b') :
    b' = b ∨ ItemMoved machines b b' := by
  obtain ⟨l, hof, rfl⟩ := h
  cases hmap : l.mapBack p b with
  | none => exact .inl rfl
  | some b' =>
    right
    obtain ⟨line, hline, hmap⟩ := Option.bind_eq_some_iff.1 hmap
    obtain ⟨place, hplace, hmap⟩ := Option.bind_eq_some_iff.1 hmap
    obtain ⟨template, -, rfl⟩ := Option.map_eq_some_iff.1 hmap
    obtain ⟨hget, hpos⟩ := Dap.get?_of_lineOf? hline
    obtain ⟨markers, hgiven, hmoved⟩ := (hof line hline).lineMoved hpos hplace
    constructor
    · exact (Dap.agreeBut_setLine (by simp) _ _).trans (Dap.agreeBut_setSource (by simp) _ _)
    · refine ⟨_, markers, hgiven, _, _, hget, ?_, hmoved⟩
      rw [Option.getD_some, Dap.get?_setSource_of_ne (by decide)]
      exact Json.get?_set (Json.isObject_of_get? hget)
    · rw [Option.getD_some, Dap.get?_source_setSource, Dap.get?_source_setLine]
      exact Dap.rel_sourceMoved _ _

theorem Shown.itemMoved {f f' : Json} (h : Shown (.answers machines webRoots) f f') :
    f' = f ∨ ItemMoved machines f f' := by
  obtain ⟨l, hof, rfl⟩ := h
  cases hshow : l.showFrame f with
  | none => exact .inl rfl
  | some f' =>
    right
    obtain ⟨⟨source, line⟩, hcompiled, hshow⟩ := Option.bind_eq_some_iff.1 hshow
    obtain ⟨place, hplace, hshow⟩ := Option.bind_eq_some_iff.1 hshow
    obtain ⟨template, -, rfl⟩ := Option.map_eq_some_iff.1 hshow
    have hline : Dap.lineOf? f "line" = some line := by
      obtain ⟨_, -, hl⟩ := Option.bind_eq_some_iff.1 hcompiled
      obtain ⟨line', hl', heq⟩ := Option.map_eq_some_iff.1 hl
      cases heq
      exact hl'
    obtain ⟨hget, hpos⟩ := Dap.get?_of_lineOf? hline
    obtain ⟨markers, hgiven, hmoved⟩ := (hof source line hcompiled).lineMoved hpos hplace
    constructor
    · exact (Dap.agreeBut_setSource (by simp) _ _).trans (Dap.agreeBut_setLine (by simp) _ _)
    · have hkept : (Dap.setSource template f).get? "line" = some (.int line) := by
        rw [Dap.get?_setSource_of_ne (by decide), hget]
      exact ⟨_, markers, hgiven, _, _, hget, Json.get?_set (Json.isObject_of_get? hkept), hmoved⟩
    · rw [Option.getD_some, Dap.get?_source_setLine, Dap.get?_source_setSource]
      exact Dap.rel_sourceMoved _ _

theorem bodyItems_eq_ok_iff {key : String} {message : Json} {items : List Json} :
    bodyItems key message = .ok items ↔
      ∃ body, message.get? "body" = some body ∧ body.get? key = some (.arr items) := by
  unfold bodyItems
  cases message.get? "body" with
  | none => simp
  | some body =>
    cases hb : body.get? key with
    | none => simp [hb]
    | some list => cases list <;> simp [hb, Json.items?]

/-- A response whose items are changed is kept, or one of its items is moved. -/
theorem ChangedItems.eq_or_within {key : String} {R : Json → Json → Prop} {response out : Json}
    (h : ChangedItems key R response out) (hord : response.ordered = true)
    (hR : ∀ i i', R i i' → i' = i ∨ ItemMoved machines i i') :
    out = response ∨ Within "body" (Within key (ItemsMoved machines)) response out := by
  unfold ChangedItems at h
  cases hitems : bodyItems key response with
  | error e =>
    rw [hitems] at h
    exact .inl h
  | ok items =>
    rw [hitems] at h
    obtain ⟨items', hall, rfl⟩ := h
    obtain ⟨body, hbody, hlist⟩ := bodyItems_eq_ok_iff.1 hitems
    have heach : EachKeptOr (ItemMoved machines) items items' := hall.imp hR
    have hset : setBodyItems key items' response = response.set "body" (body.set key (.arr items')) := by
      rw [setBodyItems, hbody]
    rw [hset]
    rcases heach.eq_or_exists with rfl | hmoved
    · -- the items are written back as they were, which changes nothing where members are in order
      left
      rw [Json.set_self (Json.ordered_of_get? hord hbody) hlist, Json.set_self hord hbody]
    · exact .inr (within_set hbody (within_set hlist ⟨items, items', rfl, rfl, heach, hmoved⟩))

/-! ## Messages -/

theorem Outcome.eq_or_edited {side : Side} {message out : Json} {pending : List Pending}
    (h : Outcome (.answers machines webRoots) s side message out pending) (hord : message.ordered = true) :
    out = message ∨ Edited machines side message out := by
  cases h with
  | kept unasked => exact .inl rfl
  | redirected enabled numbered has redirected =>
    obtain ⟨template, compiled, markers, refs, ht, -, -, hgiven, hmoved, rfl, -⟩ := redirected
    obtain ⟨text, htext, -⟩ := Option.bind_eq_some_iff.1 ht
    have hsource := (Option.filter_eq_some_iff.1 htext).1
    have hparse : ∃ text, markers = Marker.parse text := MarkerCache.Given.exists_parse hgiven
    exact .inr (.request numbered hgiven
      (within_set has (argumentsMoved_redirectArguments hparse hsource hmoved)))
  | answered enabled route waits mapped =>
    rename_i n success p
    cases success with
    | false => exact .inl mapped
    | true => exact (mapped.eq_or_within hord fun _ _ => MappedBack.itemMoved).imp_right (.response route)
  | shown enabled route frames =>
    exact (frames.eq_or_within hord fun _ _ => Shown.itemMoved).imp_right (.trace route)

/-- Whatever a session has met, and whatever the machine answers, a message goes on as it came, or edited where it can
be. -/
theorem pass_eq_or_edited (h : Met machines history s) (hm : machine ∈ machines) (side : Side) {message : Json}
    (hord : message.ordered = true) (clock : Clock) :
    (Relay.pass machine side message s clock).1.1 = message ∨
      Edited machines side message (Relay.pass machine side message s clock).1.1 :=
  (h.outcome hm side message clock).eq_or_edited hord

/-- A request for a breakpoint on the first line is edited. -/
theorem edited_lineOne :
    Edited {Sample.servlet.tickingHost} .client (Sample.request 1 "/ws/a.jsp" [1])
      (Relay.pass Sample.servlet.tickingHost .client (Sample.request 1 "/ws/a.jsp" [1]) (Sample.session 0)
        (Stream'.const 0)).1.1 :=
  (pass_eq_or_edited (.fresh (Sample.settings 0) ⟨[]⟩ [⟨"/ws"⟩]) (Set.mem_singleton _) .client (by decide +kernel)
    (Stream'.const 0)).resolve_left (by decide +kernel)

end Session

end TemplateDebug
