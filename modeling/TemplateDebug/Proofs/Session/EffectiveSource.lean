import TemplateDebug.Proofs.Session.Edits
import TemplateDebug.Proofs.Session.Unmapped
/-!
# The source of a mapped breakpoint

A breakpoint of a response without a source of its own is read in the template of its request. Mapping it back changes
its line, and the source that it has, if it has one. So line and source agree when the breakpoint has a source, or when
its line belongs to the template of the request; the line of another template is read in the wrong one.
-/

namespace TemplateDebug.Session

open Relay (Side)

/-- The file in which a breakpoint of a response is read: its own source, or the template of the request. -/
def effectiveSource (p : Pending) (b : Json) : String := (Dap.sourcePath? b).getD p.template.text

/-- The breakpoint has a source that can be changed. -/
def HasSource (b : Json) : Prop := ∃ source, b.get? "source" = some source ∧ source.IsObject

/-- A breakpoint lies where a marker of its compiled source stands for a line of a template: of the file that a search
for its reference gave, or of the template of the request. -/
def StandsFor (machines : Set (Host (StateM Clock))) (webRoots : List Path) (p : Pending) (b : Json)
    (templateLine : Nat) (template : Path) : Prop :=
  ∃ line markers ref found, Dap.lineOf? b "line" = some line ∧
    MarkerCache.Given machines (reportedSource p b) markers ∧
    Marker.locationOf? markers line = some ⟨templateLine, some ref⟩ ∧
    Template.Resolver.Searched machines webRoots ref found ∧
    found.or (if Template.anyMatches p.refs (some ref) then some p.template else none) = some template

variable {machines : Set (Host (StateM Clock))} {machine : Host (StateM Clock)} {history : List Passage} {s : Session}
  {webRoots : List Path} {p : Pending} {b b' response out : Json} {n : Int} {i line templateLine : Nat}
  {template : Path}

/-! ## One breakpoint -/

/-- A breakpoint keeps being read in the template of its request, unless it has a source to be changed. -/
theorem effectiveSource_setSource_iff :
    effectiveSource p (Dap.setSource template (Dap.setLine line b)) = template.text ↔
      HasSource b ∨ p.template = template := by
  unfold effectiveSource
  by_cases h : HasSource b
  · obtain ⟨source, hs, hobject⟩ := h
    have hsource : (Dap.setLine line b).get? "source" = some source := (Dap.get?_source_setLine line b).trans hs
    simp [Dap.sourcePath?_setSource_of_object hsource hobject, show HasSource b from ⟨source, hs, hobject⟩]
  · have hnone : Dap.sourcePath? (Dap.setSource template (Dap.setLine line b)) = none := by
      rw [Dap.sourcePath?, Dap.get?_source_setSource, Dap.get?_source_setLine]
      cases hs : b.get? "source" with
      | none => rfl
      | some source =>
        have hobject : ¬ source.IsObject := fun ho => h ⟨source, hs, ho⟩
        simp [Dap.get?_path_setSourcePath_of_not_object hobject]
    simp [hnone, h, Path.ext_iff]

/-- A breakpoint that is not left as it is lies where a marker stands for the line that it gets. -/
theorem MappedBack.eq_or_standsFor (h : MappedBack (.answers machines webRoots) p b b') :
    b' = b ∨ ∃ templateLine template, StandsFor machines webRoots p b templateLine template ∧
      b' = Dap.setSource template (Dap.setLine templateLine b) := by
  obtain ⟨l, hof, rfl⟩ := h
  cases hmap : l.mapBack p b with
  | none => exact .inl rfl
  | some b' =>
    obtain ⟨line, hline, hmap⟩ := Option.bind_eq_some_iff.1 hmap
    obtain ⟨⟨templateLine, ref⟩, hplace, hmap⟩ := Option.bind_eq_some_iff.1 hmap
    obtain ⟨template, hfor, rfl⟩ := Option.map_eq_some_iff.1 hmap
    obtain ⟨markers, hmarkers, hlocation⟩ := Learnt.of_place?_eq_some hplace
    have hgiven : MarkerCache.Given machines (reportedSource p b) markers := (hof line hline).markers markers hmarkers
    have hfound : Template.Resolver.Searched machines webRoots ref l.found :=
      (hof line hline).found (templateLine, ref) hplace
    exact .inr ⟨templateLine, template, ⟨line, markers, ref, l.found, hline, hgiven, hlocation, hfound, hfor⟩, rfl⟩

theorem StandsFor.bounds (h : StandsFor machines webRoots p b templateLine template) :
    b.IsObject ∧ 0 < templateLine ∧ templateLine ≤ lastLine := by
  obtain ⟨line, markers, ref, found, hline, hgiven, hlocation, -, -⟩ := h
  obtain ⟨text, rfl⟩ := hgiven.exists_parse
  exact ⟨Dap.isObject_of_lineOf? hline, Marker.bounds_of_locationOf? hlocation⟩

/-! ## The breakpoints of a response -/

theorem reported?_changedItems {R : Json → Json → Prop} (h : ChangedItems "breakpoints" R response out)
    (hb : reported? response i = some b) : ∃ b', reported? out i = some b' ∧ R b b' := by
  unfold ChangedItems at h
  cases hitems : bodyItems "breakpoints" response with
  | error e => simp [reported?, hitems, Except.toOption] at hb
  | ok items =>
    rw [hitems] at h
    obtain ⟨items', hall, rfl⟩ := h
    exact reported?_setBodyItems hitems hall hb

/-- What a successful response to a pending request becomes. -/
theorem Outcome.changedItems {k : Knowledge} {pending : List Pending} (h : Outcome k s .adapter response out pending)
    (hon : s.settings.enabled = true) (hp : s.pending.find? (·.requestSeq = n) = some p)
    (hroute : adapterRoute response = .mapBack n true) :
    ChangedItems "breakpoints" (MappedBack k p) response out := by
  cases h with
  | kept unasked =>
    have hnone := unasked n rfl hon (by rw [answeredSeq?, hroute])
    rw [hp] at hnone
    cases hnone
  | answered enabled route waits mapped =>
    cases hroute.symm.trans route
    cases hp.symm.trans waits
    exact mapped
  | shown enabled route frames => cases hroute.symm.trans route

/-- Whatever the machine answers, a breakpoint of a successful response to a pending request is left as it is, or gets
the line of a marker. It is then read in the file that this marker stands for exactly when it has a source, or when this
file is the template of the request. -/
theorem moved_agrees_iff (h : Met machines history s) (hm : machine ∈ machines) (hon : s.settings.enabled = true)
    (hp : s.pending.find? (·.requestSeq = n) = some p) (hroute : adapterRoute response = .mapBack n true)
    (hreported : reported? response i = some b) (clock : Clock) :
    ∃ shown, reported? (Relay.pass machine .adapter response s clock).1.1 i = some shown ∧
      (shown = b ∨ ∃ templateLine template,
        StandsFor machines s.caches.resolver.webRoots p b templateLine template ∧
        Dap.lineOf? shown "line" = some templateLine ∧
        (effectiveSource p shown = template.text ↔ HasSource b ∨ p.template = template)) := by
  have houtcome := h.outcome hm .adapter response clock
  obtain ⟨shown, hshown, hmapped⟩ := reported?_changedItems (houtcome.changedItems hon hp hroute) hreported
  refine ⟨shown, hshown, hmapped.eq_or_standsFor.imp_right ?_⟩
  rintro ⟨templateLine, template, hstands, rfl⟩
  obtain ⟨hobject, hpos, hbound⟩ := hstands.bounds
  refine ⟨templateLine, template, hstands, ?_, effectiveSource_setSource_iff⟩
  rw [Dap.lineOf?_setSource]
  exact Dap.lineOf?_setLine hobject hpos hbound

namespace Sample

/-- A compiled source with markers of two templates, the second of which the workspace holds. -/
def twoTemplates : Disk :=
  ⟨.dir [("work", .dir [("a_jsp.java", source 1 "// line 1 \"/a.jsp\"\n// line 7 \"/b.jsp\"\n")]),
    ("ws", .dir [("b.jsp", source 2 "")])], [], ⟨1, 0⟩⟩

/-- The session after a breakpoint is asked for in the first template. -/
def askedInFirst : Session :=
  (Relay.pass twoTemplates.tickingHost .client (request 1 "/ws/a.jsp" [1]) (session 0) (Stream'.const 0)).1.2

theorem reachable_askedInFirst : Reachable twoTemplates askedInFirst :=
  ⟨settings 0, ⟨[]⟩, [⟨"/ws"⟩], [.message .client (request 1 "/ws/a.jsp" [1])], Stream'.const 0, rfl⟩

def pendingInFirst : Pending := ⟨1, ⟨"/ws/a.jsp"⟩, ⟨"/work/a_jsp.java"⟩, ["a.jsp", "/a.jsp"]⟩

/-- A breakpoint that says its line only. -/
def reportedBare (line : Int) : Json := .obj [("line", .int line)]

end Sample

/-- A breakpoint that was moved to the second template, and has a source, is read there. -/
theorem moved_agrees_second : ∃ shown templateLine template,
    reported? (Relay.pass Sample.twoTemplates.tickingHost .adapter
      (Sample.response 1 [Sample.reported 3 "/work/a_jsp.java"]) Sample.askedInFirst (Stream'.const 0)).1.1 0 =
        some shown ∧
    StandsFor {Sample.twoTemplates.tickingHost} Sample.askedInFirst.caches.resolver.webRoots Sample.pendingInFirst
      (Sample.reported 3 "/work/a_jsp.java") templateLine template ∧
    Dap.lineOf? shown "line" = some templateLine ∧ effectiveSource Sample.pendingInFirst shown = template.text := by
  have hmet := (Met.fresh (Sample.settings 0) ⟨[]⟩ [⟨"/ws"⟩]).passed (Set.mem_singleton Sample.twoTemplates.tickingHost)
    .client (Sample.request 1 "/ws/a.jsp" [1]) (Stream'.const 0)
  obtain ⟨shown, hshown, hkept | ⟨templateLine, template, hstands, hline, hagrees⟩⟩ :=
    moved_agrees_iff hmet (Set.mem_singleton _) (by decide +kernel)
      (show Sample.askedInFirst.pending.find? (·.requestSeq = 1) = some Sample.pendingInFirst by decide +kernel)
      (show adapterRoute (Sample.response 1 [Sample.reported 3 "/work/a_jsp.java"]) = .mapBack 1 true by decide +kernel)
      (show reported? _ 0 = some (Sample.reported 3 "/work/a_jsp.java") from rfl) (Stream'.const 0)
  · rw [hkept] at hshown
    exact absurd hshown (by decide +kernel)
  · exact ⟨shown, templateLine, template, hshown, hstands, hline, hagrees.2 (.inl ⟨_, rfl, trivial⟩)⟩

/-- The line of a breakpoint does not always belong to the file that the breakpoint is read in. -/
theorem effectiveSource_not_always_agrees :
    ¬ ∀ (disk : Disk) (s : Session) (n : Int) (p : Pending) (response b : Json) (i line templateLine : Nat)
      (template : Path) (clock : Clock), Reachable disk s → s.settings.enabled = true →
      s.pending.find? (·.requestSeq = n) = some p → adapterRoute response = .mapBack n true →
      reported? response i = some b → Dap.lineOf? b "line" = some line →
      s.caches.site.shownAt? disk p (reportedSource p b) line = some (templateLine, template) →
      ∃ shown, reported? (Relay.pass disk.tickingHost .adapter response s clock).1.1 i = some shown ∧
        effectiveSource p shown = template.text := by
  intro hall
  -- without a source, the breakpoint gets a line of the second template and is read in the first
  obtain ⟨shown, hshown, hagrees⟩ := hall Sample.twoTemplates Sample.askedInFirst 1 Sample.pendingInFirst
    (Sample.response 1 [Sample.reportedBare 3]) (Sample.reportedBare 3) 0 3 7 ⟨"/ws/b.jsp"⟩ (Stream'.const 0)
    Sample.reachable_askedInFirst (by decide +kernel) (by decide +kernel) (by decide +kernel) rfl (by decide +kernel)
    (by decide +kernel)
  have hread : (reported? (Relay.pass Sample.twoTemplates.tickingHost .adapter
      (Sample.response 1 [Sample.reportedBare 3]) Sample.askedInFirst (Stream'.const 0)).1.1 0).map
        (effectiveSource Sample.pendingInFirst) = some "/ws/a.jsp" := by decide +kernel
  rw [hshown, Option.map_some, hagrees] at hread
  exact absurd hread (by decide +kernel)

end TemplateDebug.Session
