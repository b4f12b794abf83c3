import TemplateDebug.Proofs.Marker.Floor
import TemplateDebug.Proofs.Session.RoundTrip
/-!
# Lines before the markers of a template

A requested line with no marker of its template at or before it keeps its number, and the breakpoint is set on that
line of the compiled source. Reported there, it is shown where the last marker at or before that line stands for, be it
a marker of another template or of a later line of the same. It comes back against the compiled source only where there
is no such marker, or where it leads to no template.
-/

namespace TemplateDebug

/-- The line, and its template, for which a line of a compiled source stands in the response to a pending request. -/
def Site.shownAt? (site : Site) (disk : Disk) (p : Session.Pending) (source : Path) (line : Nat) :
    Option (Nat × Path) :=
  (placeOf? disk source line).bind fun place =>
    (site.templateFor disk p place.2).map fun template => (place.1, template)

namespace Session

open Relay (Side)

/-- A frame or a breakpoint lies on this line of this file. -/
structure PlacedAt (item : Json) (path : Path) (line : Nat) : Prop where
  source : Dap.sourcePath? item = some path.text
  line : Dap.lineOf? item "line" = some line

/-- A breakpoint is shown on this line of this template, or as it is. -/
def ShownAs (b shown : Json) : Option (Nat × Path) → Prop
  | some (line, template) => PlacedAt shown template line
  | none => shown = b

variable {disk : Disk} {site : Site} {p : Pending} {b : Json} {template compiled : Path} {n : Int} {s : Session}
  {i line templateLine : Nat} {ref : String} {markers : Array Marker}

/-! ## Where a line is shown -/

theorem placeOf?_eq_some {source : Path} (h : Site.placeOf? disk source line = some (templateLine, ref)) :
    ∃ markers, disk.markers source = some markers ∧
      Marker.locationOf? markers line = some ⟨templateLine, some ref⟩ := by
  obtain ⟨markers, hmarkers, h⟩ := Option.bind_eq_some_iff.1 h
  obtain ⟨⟨placed, ref'⟩, hlocation, h⟩ := Option.bind_eq_some_iff.1 h
  obtain ⟨ref', rfl, h⟩ := Option.map_eq_some_iff.1 h
  cases h
  exact ⟨markers, hmarkers, hlocation⟩

/-- The line of a marker is a line number. -/
theorem bounds_of_placeOf? {source : Path} (h : Site.placeOf? disk source line = some (templateLine, ref)) :
    0 < templateLine ∧ templateLine ≤ lastLine := by
  obtain ⟨markers, hmarkers, hlocation⟩ := placeOf?_eq_some h
  obtain ⟨text, rfl⟩ := Disk.exists_parse_of_markers hmarkers
  exact Marker.bounds_of_locationOf? hlocation

/-- An item that is moved to a place of a template lies there. -/
theorem PlacedAt.moved {item : Json} (h : PlacedAt item compiled line) (hpos : 0 < templateLine)
    (hbound : templateLine ≤ lastLine) (template : Path) :
    PlacedAt (Dap.setSource template (Dap.setLine templateLine item)) template templateLine ∧
      PlacedAt (Dap.setLine templateLine (Dap.setSource template item)) template templateLine := by
  have hobject := Dap.isObject_of_lineOf? h.line
  have hobject' : (Dap.setSource template item).IsObject :=
    Dap.isObject_of_lineOf? ((Dap.lineOf?_setSource template item).trans h.line)
  refine ⟨⟨?_, ?_⟩, ⟨?_, ?_⟩⟩
  · exact Dap.sourcePath?_setSource ((Dap.sourcePath?_setLine item _).trans h.source) template
  · rw [Dap.lineOf?_setSource]
    exact Dap.lineOf?_setLine hobject hpos hbound
  · rw [Dap.sourcePath?_setLine]
    exact Dap.sourcePath?_setSource h.source template
  · exact Dap.lineOf?_setLine hobject' hpos hbound

theorem shownAs_mapBack (h : PlacedAt b compiled line) :
    ShownAs b ((site.mapBack disk p b).getD b) (site.shownAt? disk p (reportedSource p b) line) := by
  unfold Site.mapBack Site.shownAt?
  rw [h.line, Option.bind_some]
  cases hplace : Site.placeOf? disk (reportedSource p b) line with
  | none => rfl
  | some place =>
    obtain ⟨templateLine, ref⟩ := place
    simp only [Option.bind_some]
    cases site.templateFor disk p ref with
    | none => rfl
    | some template =>
      obtain ⟨hpos, hbound⟩ := bounds_of_placeOf? hplace
      exact (h.moved hpos hbound template).1

/-- A breakpoint that names the compiled source of its request is read there. -/
theorem reportedSource_eq_compiled (h : Dap.sourcePath? b = some p.compiled.text) :
    reportedSource p b = p.compiled := by
  unfold reportedSource
  rw [h]
  cases hc : Source.isCompiled p.compiled.text <;> simp [Option.filter, hc]

/-! ## From the request to its response -/

/-- A request for a template is sent on to a compiled source, and waits until its response arrives at a later
session. -/
structure Exchange (disk : Disk) (s later : Session) (request sent response : Json) (n : Int)
    (template compiled : Path) : Prop where
  reachable : Reachable disk s
  numbered : requestSeq? request = some n
  asked : askedSource? request = some template.text
  passed : ∃ clock between clock', (Relay.pass disk.tickingHost .client request s clock).1.1 = sent ∧
    (∀ e ∈ between, e.Spares n) ∧
    after disk between (Relay.pass disk.tickingHost .client request s clock).1.2 clock' = later
  redirected : askedSource? sent = some compiled.text
  moved : compiled ≠ template
  enabled : later.settings.enabled = true
  answered : adapterRoute response = .mapBack n true

variable {later : Session} {request sent response : Json}

/-- The lines of the request have been mapped by the markers of the compiled source, and it still waits. -/
theorem Exchange.redirects (h : Exchange disk s later request sent response n template compiled)
    (hmarkers : disk.markers compiled = some markers) :
    (∃ arguments, request.get? "arguments" = some arguments ∧ sent = request.set "arguments"
      (redirectArguments markers (Template.plausibleRefs template s.caches.resolver.webRoots) compiled arguments).1) ∧
    ∃ times d, later.Mirrors {disk} disk times d ∧ d.pending.find? (·.requestSeq = n) =
      some ⟨n, template, compiled, Template.plausibleRefs template s.caches.resolver.webRoots⟩ := by
  obtain ⟨clock, between, clock', hsent, hspares, hlater⟩ := h.passed
  obtain ⟨times, d, hm⟩ := h.reachable.mirrors
  have hrefs : d.site.refsOf template = Template.plausibleRefs template s.caches.resolver.webRoots := by
    rw [← hm.direct_eq]
    rfl
  rw [← hrefs]
  obtain ⟨hout, hm'⟩ := pass_direct hm rfl disk.tellsVersions_singleton .client request clock
  have hpassed : (d.pass disk .client request).1 = sent := (hout (by simp)).symm.trans hsent
  obtain ⟨arguments, ms, ha, hms, hpass⟩ := pass_redirected h.numbered h.asked (hpassed ▸ h.redirected) h.moved
  obtain rfl : ms = markers := Option.some.inj (hms.symm.trans hmarkers)
  refine ⟨⟨arguments, ha, by rw [← hpassed, hpass]⟩, ?_⟩
  obtain ⟨times', hmlater⟩ := after_mirrors hm' between clock'
  rw [hlater] at hmlater
  refine ⟨times', _, hmlater, ?_⟩
  rw [find?_pending_run between hspares, hpass]
  simp

/-- A requested line with no marker of its template at or before it keeps its number. When the adapter reports the
breakpoint on that line of the compiled source, it is shown where the line stands for, and as it is reported if the line
stands for nothing. A line before all markers stands for nothing; one that stands for a place in the template itself
stands for a later line than was asked for. -/
theorem unmapped_reported (h : Exchange disk s later request sent response n template compiled)
    (hline : requestedLine? request i = some line) (hmarkers : disk.markers compiled = some markers)
    {refs : List String} (hrefs : refs = Template.plausibleRefs template s.caches.resolver.webRoots)
    (hunmapped : Marker.chosen? markers refs line = none) (hreported : reported? response i = some b)
    (hat : PlacedAt b compiled line) (clock : Clock) :
    requestedLine? sent i = some line ∧
    (∃ shown, reported? (Relay.pass disk.tickingHost .adapter response later clock).1.1 i = some shown ∧
      ShownAs b shown (later.caches.site.shownAt? disk ⟨n, template, compiled, refs⟩ compiled line) ∧
      ((∀ m ∈ markers, line < m.compiledLine) → shown = b)) ∧
    (∀ templateLine ref, Site.placeOf? disk compiled line = some (templateLine, ref) →
      Template.anyMatches refs (some ref) = true → line < templateLine) := by
  obtain ⟨⟨arguments, ha, hsent⟩, times, d, hm, hpending⟩ := h.redirects hmarkers
  rw [← hrefs] at hsent hpending
  obtain ⟨p, hp⟩ : ∃ p : Pending, p = ⟨n, template, compiled, refs⟩ := ⟨_, rfl⟩
  rw [← hp] at hpending ⊢
  have hreads : reportedSource p b = compiled := by
    rw [reportedSource_eq_compiled (by rw [hat.source, hp]), hp]
  have hfile : (reportedSource p b).NamesFile := by
    rw [hreads]
    exact Disk.namesFile_of_markers hmarkers
  have hsite : later.caches.site = d.site := hm.faithful.site_eq
  refine ⟨?_, ⟨_, reported?_pass hm (hm.enabled ▸ h.enabled) hpending h.answered hreported hfile clock, ?_,
    fun hbefore => ?_⟩, ?_⟩
  · rw [hsent, requestedLine?_set_arguments ha, hline]
    simp [Marker.breakpointLine?, hunmapped]
  · have hshown : ShownAs b ((d.site.mapBack disk p b).getD b)
        (d.site.shownAt? disk p (reportedSource p b) line) := shownAs_mapBack hat
    rw [hsite]
    rwa [hreads] at hshown
  · obtain ⟨text, rfl⟩ := Disk.exists_parse_of_markers hmarkers
    have hplace : Site.placeOf? disk compiled line = none := by
      simp [Site.placeOf?, hmarkers, ((Marker.sorted_parse text).ascending.mapsToFloor line).none_iff.2 hbefore]
    simp [Site.mapBack, hat.line, hreads, hplace]
  · intro templateLine ref hplace href
    obtain ⟨ms, hms, hlocation⟩ := placeOf?_eq_some hplace
    obtain rfl : ms = markers := Option.some.inj (hms.symm.trans hmarkers)
    obtain ⟨m, hmem, hm⟩ := Marker.mem_of_locationOf? hlocation
    obtain ⟨rfl, hr⟩ := TemplateLocation.mk.inj hm
    exact Marker.lt_of_chosen?_eq_none hunmapped hmem (hr ▸ href)

namespace Sample

/-- A compiled source whose first marker stands for a later line of its template. -/
def lateMarker : Disk := workDisk [("a_jsp.java", source 1 "// line 5 \"/a.jsp\"\n")]

/-- Breakpoints are asked for before the line of this marker, and on it. -/
def requestLate : Json := Sample.request 1 "/ws/a.jsp" [3, 5]

/-- The one before it is reported on the line of the compiled source that was asked for. -/
def responseLate : Json := Sample.response 1 [reported 3 "/work/a_jsp.java"]

def passedLate : Json × Session :=
  (Relay.pass lateMarker.tickingHost .client requestLate (session 0) (Stream'.const 0)).1

theorem exchangeLate : Exchange lateMarker (session 0) passedLate.2 requestLate passedLate.1 responseLate 1
    ⟨"/ws/a.jsp"⟩ ⟨"/work/a_jsp.java"⟩ where
  reachable := ⟨settings 0, ⟨[]⟩, [⟨"/ws"⟩], [], Stream'.const 0, rfl⟩
  numbered := by decide +kernel
  asked := rfl
  passed := ⟨Stream'.const 0, [], Stream'.const 0, rfl, fun _ h => (by cases h), rfl⟩
  redirected := by decide +kernel
  moved := by decide +kernel
  enabled := by decide +kernel
  answered := by decide +kernel

theorem markers_lateMarker : lateMarker.markers ⟨"/work/a_jsp.java"⟩ = some #[⟨1, 5, some "/a.jsp"⟩] := by
  decide +kernel

theorem placedAt_late : PlacedAt (reported 3 "/work/a_jsp.java") ⟨"/work/a_jsp.java"⟩ 3 := ⟨rfl, by decide +kernel⟩

theorem refs_lateMarker :
    ["a.jsp", "/a.jsp"] = Template.plausibleRefs ⟨"/ws/a.jsp"⟩ (session 0).caches.resolver.webRoots := by
  decide +kernel

end Sample

/-- A breakpoint that was asked for on the third line of the template, and is reported on the third line of the
compiled source, is shown on the fifth line of the template. -/
theorem unmapped_reported_late : ∃ shown,
    reported? (Relay.pass Sample.lateMarker.tickingHost .adapter Sample.responseLate Sample.passedLate.2
      (Stream'.const 0)).1.1 0 = some shown ∧
    PlacedAt shown ⟨"/ws/a.jsp"⟩ 5 := by
  obtain ⟨-, ⟨shown, hshown, hplace, -⟩, -⟩ :=
    unmapped_reported Sample.exchangeLate (show requestedLine? Sample.requestLate 0 = some 3 by decide +kernel)
      Sample.markers_lateMarker Sample.refs_lateMarker (by decide +kernel) rfl Sample.placedAt_late
      (Stream'.const 0)
  have hat : Sample.passedLate.2.caches.site.shownAt? Sample.lateMarker
      ⟨1, ⟨"/ws/a.jsp"⟩, ⟨"/work/a_jsp.java"⟩, ["a.jsp", "/a.jsp"]⟩ ⟨"/work/a_jsp.java"⟩ 3 =
        some (5, ⟨"/ws/a.jsp"⟩) := by decide +kernel
  rw [hat] at hplace
  exact ⟨shown, hshown, hplace⟩

/-- A breakpoint on a line that no marker maps does not always come back against the compiled source. -/
theorem unmapped_not_always_kept :
    ¬ ∀ (disk : Disk) (s later : Session) (request sent response : Json) (n : Int) (template compiled : Path)
      (i line : Nat) (markers : Array Marker) (b : Json) (clock : Clock),
      Exchange disk s later request sent response n template compiled → requestedLine? request i = some line →
      disk.markers compiled = some markers →
      Marker.chosen? markers (Template.plausibleRefs template s.caches.resolver.webRoots) line = none →
      reported? response i = some b → PlacedAt b compiled line →
      reported? (Relay.pass disk.tickingHost .adapter response later clock).1.1 i = some b := by
  intro hall
  -- the line comes before the marker in the template, and after it in the compiled source
  have hkept := hall Sample.lateMarker (Sample.session 0) Sample.passedLate.2 Sample.requestLate Sample.passedLate.1
    Sample.responseLate 1 ⟨"/ws/a.jsp"⟩ ⟨"/work/a_jsp.java"⟩ 0 3 #[⟨1, 5, some "/a.jsp"⟩]
    (Sample.reported 3 "/work/a_jsp.java") (Stream'.const 0) Sample.exchangeLate (by decide +kernel)
    Sample.markers_lateMarker (by decide +kernel) rfl Sample.placedAt_late
  exact absurd hkept (by decide +kernel)

end Session

end TemplateDebug
