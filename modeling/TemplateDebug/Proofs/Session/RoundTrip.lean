import TemplateDebug.Proofs.Session.Redirection
/-!
# A breakpoint there and back

A breakpoint that a redirected request asks for, and that the adapter reports where it was asked for, is back in its
template when the response arrives: on the template line of the marker that it was mapped through.
-/

namespace TemplateDebug

open Relay (Side)

namespace Session

/-- The session after some events on a disk. -/
def after (disk : Disk) (events : List Event) (s : Session) (clock : Clock) : Session :=
  (run (events.map fun e => (disk, e)) s clock).1.2

/-- The session is what some events on the disk leave of a new one. -/
def Reachable (disk : Disk) (s : Session) : Prop :=
  ∃ (settings : DebugSettings) (env : Environment) (roots : List Path) (events : List Event) (clock : Clock),
    after disk events (new settings env roots) clock = s

/-- The event neither sends a request under this number nor answers one. -/
def Event.Spares (n : Int) : Event → Prop
  | .message .client m => requestSeq? m ≠ some n
  | .message .adapter m => answeredSeq? m ≠ some n
  | .settings .. => True

/-- The line that a request asks for at a place: of its breakpoint there, or bare if it lists no breakpoints. -/
def requestedLine? (request : Json) (i : Nat) : Option Nat :=
  (request.get? "arguments").bind fun arguments =>
    match listed? "breakpoints" arguments with
    | some items => items[i]?.bind (Dap.lineOf? · "line")
    | none => ((listed? "lines" arguments).getD [])[i]?.bind Dap.word?

/-- The reference of a marker, searched for in the web roots, leads to the template or nowhere. -/
def LeadsOnlyTo (disk : Disk) (webRoots : List Path) (m : Marker) (template : Path) : Prop :=
  ∀ ref q, m.templateRef = some ref → disk.search webRoots ref = some q → q.components = template.components

/-- The breakpoint that a response reports at a place. -/
def reported? (response : Json) (i : Nat) : Option Json := ((bodyItems "breakpoints" response).toOption.getD [])[i]?

variable {disk : Disk} {d : Direct} {n : Int} {s : Session} {times : Times} {i line : Nat}

theorem after_mirrors (h : s.Mirrors {disk} disk times d) (events : List Event) (clock : Clock) :
    ∃ times, (after disk events s clock).Mirrors {disk} disk times (Direct.run (events.map fun e => (disk, e)) d).2 :=
  run_mirrors events h clock

theorem Reachable.mirrors (h : Reachable disk s) : ∃ times d, s.Mirrors {disk} disk times d := by
  obtain ⟨settings, env, roots, events, clock, rfl⟩ := h
  obtain ⟨times, hm⟩ := after_mirrors (mirrors_new {disk} disk settings env roots) events clock
  exact ⟨times, _, hm⟩

/-! ## Waiting -/

/-- A request waits as long as no event answers it or takes its number. -/
theorem find?_pending_run (events : List Event) :
    ∀ {d : Direct}, (∀ e ∈ events, e.Spares n) →
      (Direct.run (events.map fun e => (disk, e)) d).2.pending.find? (·.requestSeq = n) =
        d.pending.find? (·.requestSeq = n) := by
  induction events with
  | nil => exact fun _ => rfl
  | cons e events ih =>
    intro d hspares
    have he := hspares e List.mem_cons_self
    have hrest : ∀ e ∈ events, e.Spares n := fun e he => hspares e (List.mem_cons_of_mem _ he)
    cases e with
    | settings settings env => exact ih hrest
    | message side message =>
      refine (ih hrest).trans ?_
      cases side with
      | client =>
        rw [show d = { d with pending := d.pending } from rfl, Direct.pass_client, Direct.afterRequest]
        cases hl : d.leaves? disk message with
        | none => rfl
        | some p =>
          have hne : p.requestSeq ≠ n := fun h => he (h ▸ Direct.requestSeq?_of_leaves? hl)
          simp [Direct.find?_without, hne, hne.symm]
      | adapter =>
        rw [show d = { d with pending := d.pending } from rfl, Direct.pass_adapter, Direct.afterResponse]
        cases ha : answeredSeq? message with
        | none => rfl
        | some k =>
          have hne : n ≠ k := fun h => he (h ▸ ha)
          dsimp only
          split
          · simp [Direct.find?_without, hne]
          · rfl

/-! ## There -/

/-- A request that goes on to another source than it named is redirected. -/
theorem exists_redirect {request : Json} (hseq : requestSeq? request = some n)
    (hne : askedSource? (d.pass disk .client request).1 ≠ askedSource? request) :
    ∃ arguments, request.get? "arguments" = some arguments ∧
      ∃ r, d.site.redirect disk n arguments request = some r ∧
        d.pass disk .client request = (r.1, { d with pending := r.2 :: without d.pending n }) := by
  have hon : d.enabled = true := by
    by_contra hoff
    simp [Direct.pass, hoff] at hne
  rw [Direct.pass_request hon hseq] at hne ⊢
  cases hr : (request.get? "arguments").bind fun arguments => d.site.redirect disk n arguments request with
  | none => simp [hr] at hne
  | some r =>
    obtain ⟨arguments, ha, hr⟩ := Option.bind_eq_some_iff.1 hr
    exact ⟨arguments, ha, r, hr, rfl⟩

/-- What becomes of a request that names a template and goes on to a compiled source. -/
theorem pass_redirected {request : Json} {template compiled : Path} (hseq : requestSeq? request = some n)
    (hasked : askedSource? request = some template.text)
    (hredirected : askedSource? (d.pass disk .client request).1 = some compiled.text) (hne : compiled ≠ template) :
    ∃ arguments markers, request.get? "arguments" = some arguments ∧ disk.markers compiled = some markers ∧
      d.pass disk .client request =
        (request.set "arguments" (redirectArguments markers (d.site.refsOf template) compiled arguments).1,
          { d with pending := ⟨n, template, compiled, d.site.refsOf template⟩ :: without d.pending n }) := by
  have hchanged : askedSource? (d.pass disk .client request).1 ≠ askedSource? request := by
    rw [hredirected, hasked]
    exact fun h => hne (Path.ext (Option.some.inj h))
  obtain ⟨arguments, ha, r, hr, hpass⟩ := exists_redirect hseq hchanged
  -- the template and the compiled source are the ones that the request names, before and after
  obtain ⟨t, c, markers, ht, -, hmarkers, rfl⟩ := Site.redirect_eq_some hr
  have htemplate : d.site.template? request = some t := by rw [Site.template?, ha, Option.bind_some, ht]
  obtain ⟨hnamed, -⟩ := Site.askedSource?_of_template? htemplate
  obtain rfl : t = template := Path.ext (Option.some.inj (hnamed.symm.trans hasked))
  have hto : askedSource? (d.pass disk .client request).1 = some c.text := by
    rw [askedSource?, ha, Option.bind_some] at hasked
    rw [hpass, askedSource?, Json.get?_set (Json.isObject_of_get? ha), Option.bind_some]
    exact sourcePath?_redirectArguments hasked
  obtain rfl : c = compiled := Path.ext (Option.some.inj (hto.symm.trans hredirected))
  exact ⟨arguments, markers, ha, hmarkers, hpass⟩

theorem requestedLine?_set_arguments {request arguments : Json} {markers : Array Marker} {refs : List String}
    {compiled : Path} (ha : request.get? "arguments" = some arguments) :
    requestedLine? (request.set "arguments" (redirectArguments markers refs compiled arguments).1) i =
      (requestedLine? request i).map fun line => (Marker.breakpointLine? markers refs line).getD line := by
  unfold requestedLine?
  rw [Json.get?_set (Json.isObject_of_get? ha), ha, Option.bind_some, Option.bind_some,
    listed?_breakpoints_redirectArguments]
  cases listed? "breakpoints" arguments with
  | some items =>
    simp only [Option.map_some, List.getElem?_map]
    cases items[i]? with
    | none => rfl
    | some b => exact lineOf?_redirectBreakpoint bounded_breakpointLine? b
  | none =>
    simp only [Option.map_none, listed?_lines_redirectArguments]
    cases listed? "lines" arguments with
    | none => rfl
    | some items =>
      simp only [Option.map_some, Option.getD_some, List.getElem?_map]
      cases items[i]? with
      | none => rfl
      | some j => exact word?_redirectLine bounded_breakpointLine? j

/-! ## Back -/

theorem bodyItems_setBodyItems {key : String} {message : Json} {old : List Json} (h : bodyItems key message = .ok old)
    (items : List Json) : bodyItems key (setBodyItems key items message) = .ok items := by
  unfold bodyItems at h
  split at h
  · cases h
  · rename_i body hbody
    split at h
    · cases h
    · rename_i list hlist
      unfold setBodyItems bodyItems
      simp only [hbody, Json.get?_set (Json.isObject_of_get? hbody), Json.get?_set (Json.isObject_of_get? hlist)]
      rfl

/-- With the breakpoints of a response replaced one by one, each place has the one that replaces what was there. -/
theorem reported?_setBodyItems {R : Json → Json → Prop} {response b : Json} {items items' : List Json}
    (hitems : bodyItems "breakpoints" response = .ok items) (hall : List.Forall₂ R items items')
    (hb : reported? response i = some b) :
    ∃ b', reported? (setBodyItems "breakpoints" items' response) i = some b' ∧ R b b' := by
  unfold reported? at hb ⊢
  rw [hitems] at hb
  rw [bodyItems_setBodyItems hitems]
  obtain ⟨hi, rfl⟩ := List.getElem?_eq_some_iff.1 (show items[i]? = some b from hb)
  have hi' : i < items'.length := hall.length_eq ▸ hi
  exact ⟨items'[i], List.getElem?_eq_getElem hi', hall.get hi hi'⟩

/-- Each breakpoint of a successful response to a pending request is mapped back on its own. -/
theorem reported?_answered {p : Pending} {response b : Json} (h : s.Mirrors {disk} disk times d)
    (hon : d.enabled = true) (hp : d.pending.find? (·.requestSeq = n) = some p)
    (hroute : adapterRoute response = .mapBack n true) (hb : reported? response i = some b) :
    Always (Relay.pass disk.tickingHost .adapter response s) fun r =>
      ∃ shown, reported? r.1 i = some shown ∧ AnsweredAs {disk} disk d.site times p b shown := by
  rw [pass_eq, h.enabled, hon, if_pos rfl, Direct.route, hroute]
  refine (answerRequest_direct h rfl disk.tellsVersions_singleton n true response).mono ?_
  rintro ⟨answered, s'⟩ ⟨hanswered, -⟩
  rw [hp] at hanswered
  simp only [if_true, Answered] at hanswered
  cases hitems : bodyItems "breakpoints" response with
  | error e => simp [reported?, hitems, Except.toOption] at hb
  | ok items =>
    rw [hitems] at hanswered
    obtain ⟨mapped, hall, rfl⟩ := hanswered
    exact reported?_setBodyItems hitems hall hb

/-- Where its source can name a file, it is mapped back as without caches. -/
theorem reported?_pass {p : Pending} {response b : Json} (h : s.Mirrors {disk} disk times d) (hon : d.enabled = true)
    (hp : d.pending.find? (·.requestSeq = n) = some p) (hroute : adapterRoute response = .mapBack n true)
    (hb : reported? response i = some b) (hfile : (reportedSource p b).NamesFile) :
    Always (Relay.pass disk.tickingHost .adapter response s) fun r =>
      reported? r.1 i = some ((d.site.mapBack disk p b).getD b) := by
  refine (reported?_answered h hon hp hroute hb).mono ?_
  rintro ⟨answered, s'⟩ ⟨shown, hshown, hmapped⟩
  rw [hshown, hmapped (.inr ⟨rfl, hfile⟩)]

/-- A breakpoint on a line that belongs to a marker of the template goes back to the line of the marker, in the file that
its reference leads to, or else in the template. -/
theorem mapBack_placed {site : Site} {p : Pending} {b : Json} {markers : Array Marker} {templateLine : Nat} {ref : String}
    (hmarkers : disk.markers (reportedSource p b) = some markers) (hline : Dap.lineOf? b "line" = some line)
    (hlocation : Marker.locationOf? markers line = some ⟨templateLine, some ref⟩)
    (href : Template.anyMatches p.refs (some ref) = true) :
    site.mapBack disk p b =
      some (Dap.setSource ((disk.search site.webRoots ref).getD p.template) (Dap.setLine templateLine b)) := by
  have hplace : Site.placeOf? disk (reportedSource p b) line = some (templateLine, ref) := by
    simp [Site.placeOf?, hmarkers, hlocation]
  have hfor : site.templateFor disk p ref = some ((disk.search site.webRoots ref).getD p.template) := by
    unfold Site.templateFor
    cases disk.search site.webRoots ref with
    | some q => rfl
    | none => rw [if_pos href]; rfl
  simp [Site.mapBack, hline, hplace, hfor]

/-- So it is shown there when its response arrives. -/
theorem shown_placed {p : Pending} {markers : Array Marker} {response b : Json} {templateLine : Nat} {ref : String}
    (h : s.Mirrors {disk} disk times d) (hon : s.settings.enabled = true)
    (hp : s.pending.find? (·.requestSeq = n) = some p) (hmarkers : disk.markers (reportedSource p b) = some markers)
    (hlocation : Marker.locationOf? markers line = some ⟨templateLine, some ref⟩)
    (href : Template.anyMatches p.refs (some ref) = true) (hroute : adapterRoute response = .mapBack n true)
    (hreported : reported? response i = some b) (hat : Dap.lineOf? b "line" = some line) :
    Always (Relay.pass disk.tickingHost .adapter response s) fun r =>
      reported? r.1 i = some (Dap.setSource ((disk.search s.caches.resolver.webRoots ref).getD p.template)
        (Dap.setLine templateLine b)) := by
  have hroots : s.caches.resolver.webRoots = d.site.webRoots := by
    rw [← h.direct_eq]
    rfl
  rw [h.pending] at hp
  have hfile := Disk.namesFile_of_markers hmarkers
  refine (reported?_pass h (h.enabled ▸ hon) hp hroute hreported hfile).mono fun r hr => ?_
  rw [hr, mapBack_placed hmarkers hat hlocation href, hroots]
  rfl

/-- A breakpoint that was mapped through a marker, and is reported on the line after it, is shown where the marker
stands for. -/
theorem shown_chosen {p : Pending} {markers : Array Marker} {m : Marker} {response b : Json}
    (h : s.Mirrors {disk} disk times d) (hon : s.settings.enabled = true)
    (hp : s.pending.find? (·.requestSeq = n) = some p) (hmarkers : disk.markers p.compiled = some markers)
    (hchosen : Marker.chosen? markers p.refs line = some m)
    (halone : ∀ m' ∈ markers, m'.compiledLine ≠ m.compiledLine + 1)
    (hleads : LeadsOnlyTo disk s.caches.resolver.webRoots m p.template)
    (hroute : adapterRoute response = .mapBack n true) (hreported : reported? response i = some b)
    (hat : Dap.lineOf? b "line" = some (m.compiledLine + 1)) (hsource : Dap.sourcePath? b = some p.compiled.text) :
    Always (Relay.pass disk.tickingHost .adapter response s) fun r =>
      ∃ shown q, reported? r.1 i = some shown ∧ Dap.lineOf? shown "line" = some m.templateLine ∧
        Dap.sourcePath? shown = some q ∧ (Path.mk q).components = p.template.components := by
  -- the source that the breakpoint reports is the one that the request went to
  have hreads : reportedSource p b = p.compiled := by
    unfold reportedSource
    rw [hsource]
    cases hc : Source.isCompiled p.compiled.text <;> simp [Option.filter, hc]
  rw [← hreads] at hmarkers
  obtain ⟨⟨hmem, -, href⟩, -⟩ := Marker.chosen?_spec hchosen
  -- a marker without a reference is never chosen
  obtain ⟨ref, hr⟩ : ∃ ref, m.templateRef = some ref := by
    cases h : m.templateRef with
    | none => simp [h, Template.anyMatches] at href
    | some ref => exact ⟨ref, rfl⟩
  obtain ⟨text, rfl⟩ := Disk.exists_parse_of_markers hmarkers
  have hlocation := Marker.locationOf?_succ (Marker.sorted_parse text) hmem halone
  obtain ⟨hpos, hbound⟩ := Marker.templateLine_of_mem_parse hmem
  rw [hr] at hlocation href
  refine (shown_placed h hon hp hmarkers hlocation href hroute hreported hat).mono fun r hshown => ?_
  refine ⟨_, _, hshown, ?_, Dap.sourcePath?_setSource ((Dap.sourcePath?_setLine b _).trans hsource) _, ?_⟩
  · rw [Dap.lineOf?_setSource]
    exact Dap.lineOf?_setLine (Dap.isObject_of_lineOf? hat) hpos hbound
  · cases hs : disk.search s.caches.resolver.webRoots ref with
    | some q => exact hleads ref q hr hs
    | none => rfl

/-! ## There and back -/

/-- A breakpoint of a redirected request is on the line after the marker chosen for it; reported there, it is shown on
the line of this marker in the template, which is the line asked for exactly when a marker of the template has that. -/
theorem breakpoint_roundtrip (hs : Reachable disk s) (clock : Clock) {request : Json} {template compiled : Path}
    (hseq : requestSeq? request = some n) (hasked : askedSource? request = some template.text)
    (hredirected :
      askedSource? (Relay.pass disk.tickingHost .client request s clock).1.1 = some compiled.text)
    (hne : compiled ≠ template) (hline : requestedLine? request i = some line)
    {markers : Array Marker} {m : Marker} (hmarkers : disk.markers compiled = some markers)
    (hchosen : Marker.chosen? markers (Template.plausibleRefs template s.caches.resolver.webRoots) line = some m)
    (hlast : m.compiledLine < lastLine) (halone : ∀ m' ∈ markers, m'.compiledLine ≠ m.compiledLine + 1)
    {between : List Event} (hspares : ∀ e ∈ between, e.Spares n) (clock' : Clock) {later : Session}
    (hlater : later = after disk between (Relay.pass disk.tickingHost .client request s clock).1.2 clock')
    (hon : later.settings.enabled = true) (hleads : LeadsOnlyTo disk later.caches.resolver.webRoots m template)
    (clock'' : Clock) {response b : Json} (hroute : adapterRoute response = .mapBack n true)
    (hreported : reported? response i = some b) (hat : Dap.lineOf? b "line" = some (m.compiledLine + 1))
    (hsource : Dap.sourcePath? b = some compiled.text) :
    requestedLine? (Relay.pass disk.tickingHost .client request s clock).1.1 i = some (m.compiledLine + 1) ∧
    (∃ shown q, reported? (Relay.pass disk.tickingHost .adapter response later clock'').1.1 i = some shown ∧
      Dap.lineOf? shown "line" = some m.templateLine ∧ Dap.sourcePath? shown = some q ∧
      (Path.mk q).components = template.components) ∧
    m.templateLine ≤ line ∧
    (m.templateLine = line ↔ ∃ m' ∈ markers, m'.templateLine = line ∧
      Template.anyMatches (Template.plausibleRefs template s.caches.resolver.webRoots) m'.templateRef = true) := by
  obtain ⟨times, d, hm⟩ := hs.mirrors
  have hrefs : d.site.refsOf template = Template.plausibleRefs template s.caches.resolver.webRoots := by
    rw [← hm.direct_eq]
    rfl
  rw [← hrefs] at hchosen ⊢
  obtain ⟨hout, hm'⟩ := pass_direct hm rfl disk.tellsVersions_singleton .client request clock
  rw [hout (by simp)] at hredirected ⊢
  obtain ⟨arguments, ms, ha, hms, hpass⟩ := pass_redirected hseq hasked hredirected hne
  obtain rfl : ms = markers := Option.some.inj (hms.symm.trans hmarkers)
  refine ⟨?_, ?_, (Marker.chosen?_spec hchosen).1.2.1, Marker.templateLine_chosen?_eq_iff hchosen⟩
  · rw [hpass, requestedLine?_set_arguments ha, hline]
    simp [Marker.breakpointLine?, hchosen, hlast]
  · -- the request still waits when its response arrives, whatever came in between
    obtain ⟨times', hmlater⟩ := after_mirrors hm' between clock'
    rw [← hlater] at hmlater
    have hpending : (Direct.run (between.map fun e => (disk, e)) (d.pass disk .client request).2).2.pending.find?
        (·.requestSeq = n) = some ⟨n, template, compiled, d.site.refsOf template⟩ := by
      rw [find?_pending_run between hspares, hpass]
      simp
    rw [← hmlater.pending] at hpending
    exact shown_chosen hmlater hon hpending hmarkers hchosen halone hleads hroute hreported hat hsource clock''

namespace Sample

def between : List Event := [.message .client (request 2 "/ws/b.jsp" [1])]

/-- The session after a breakpoint is asked for on the second line of a template, and another one elsewhere. -/
def asked : Session :=
  after servlet between
    (Relay.pass servlet.tickingHost .client (request 1 "/ws/a.jsp" [2]) (session 0) (Stream'.const 0)).1.2
    (Stream'.const 0)

end Sample

/-- The breakpoint is shown on the first line, whose statement it stops at. -/
theorem breakpoint_roundtrip_lineTwo :
    ∃ shown q, reported? (Relay.pass Sample.servlet.tickingHost .adapter
        (Sample.response 1 [Sample.reported 2 "/work/a_jsp.java"]) Sample.asked (Stream'.const 0)).1.1 0 = some shown ∧
      Dap.lineOf? shown "line" = some 1 ∧ Dap.sourcePath? shown = some q ∧
      (Path.mk q).components = (Path.mk "/ws/a.jsp").components := by
  have hspares : ∀ e ∈ Sample.between, e.Spares 1 := by
    rintro _ (_ | ⟨_, ⟨⟩⟩)
    exact (by decide +kernel : requestSeq? (Sample.request 2 "/ws/b.jsp" [1]) ≠ some 1)
  have hnowhere : Sample.servlet.search Sample.asked.caches.resolver.webRoots "/a.jsp" = none := by decide +kernel
  have hline : requestedLine? (Sample.request 1 "/ws/a.jsp" [2]) 0 = some 2 := by decide +kernel
  have hmarkers : Sample.servlet.markers ⟨"/work/a_jsp.java"⟩ = some #[⟨1, 1, some "/a.jsp"⟩] := by decide +kernel
  have hchosen : Marker.chosen? #[⟨1, 1, some "/a.jsp"⟩]
      (Template.plausibleRefs ⟨"/ws/a.jsp"⟩ (Sample.session 0).caches.resolver.webRoots) 2 =
        some ⟨1, 1, some "/a.jsp"⟩ := by decide +kernel
  have hleads : LeadsOnlyTo Sample.servlet Sample.asked.caches.resolver.webRoots ⟨1, 1, some "/a.jsp"⟩
      ⟨"/ws/a.jsp"⟩ := by
    rintro _ q ⟨⟩ hs
    cases hnowhere.symm.trans hs
  exact (breakpoint_roundtrip ⟨Sample.settings 0, ⟨[]⟩, [⟨"/ws"⟩], [], Stream'.const 0, rfl⟩ (Stream'.const 0)
    (by decide +kernel) rfl (by decide +kernel) (by decide +kernel) hline hmarkers hchosen (by decide +kernel)
    (by decide +kernel) hspares (Stream'.const 0) rfl (by decide +kernel) hleads (Stream'.const 0)
    (by decide +kernel) rfl (by decide +kernel) rfl).2.1

end Session

end TemplateDebug
