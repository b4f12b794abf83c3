import TemplateDebug.Proofs.Session.Redirection
/-!
# What becomes of a message

Whatever a machine answers, there are only a few things that a message can become, and each tells what is pending
afterwards. How much is known of the answers is left open: `Knowledge` says it, and every handler keeps it. A mapping
is a function of what was learnt for it, so an outcome names what was learnt and leaves the caches out.
-/

namespace TemplateDebug.Session

open Relay (Side)

/-- What is known of the caches of a session, and of the answers that they give. -/
structure Knowledge where
  markers : MarkerCache → Prop
  resolver : Template.Resolver → Prop
  gives : Path → Array Marker → Prop
  finds : String → Option Path → Prop

/-- Questions to the machine keep what is known, and their answers are as is known. -/
structure Knowledge.On (k : Knowledge) (machine : Host (StateM Clock)) : Prop where
  reads : MarkerCache.Reads machine k.markers k.gives
  resolve : ∀ {r : Template.Resolver}, k.resolver r → ∀ ref,
    Always (r.resolve machine ref) fun x => k.finds ref x.1 ∧ k.resolver x.2

/-- The caches are as is known. -/
structure Caches.Meet (k : Knowledge) (c : Caches) : Prop where
  markers : k.markers c.markers
  resolver : k.resolver c.resolver
  locator : c.locator.Located

/-- The markers are those of the source, and the file is the one that the reference on the line leads to. -/
structure Learnt.Of (k : Knowledge) (source : Path) (line : Nat) (l : Learnt) : Prop where
  markers : ∀ ms, l.markers = some ms → k.gives source ms
  found : ∀ place, l.place? line = some place → k.finds place.2 l.found

/-- A request redirected to its compiled source, with what it leaves pending. -/
def RedirectedTo (k : Knowledge) (c : Caches) (requestSeq : Int) (arguments request : Json) (out : Json)
    (p : Pending) : Prop :=
  ∃ template compiled markers refs, templateOf? c arguments = some template ∧
    refs = Template.plausibleRefs template c.resolver.webRoots ∧ Source.isCompiled compiled.text = true ∧
    k.gives compiled markers ∧ (redirectArguments markers refs compiled arguments).2 ≠ 0 ∧
    out = request.set "arguments" (redirectArguments markers refs compiled arguments).1 ∧
    p = ⟨requestSeq, template, compiled, refs⟩

/-- A breakpoint of a response and what becomes of it. -/
def MappedBack (k : Knowledge) (pending : Pending) (breakpoint mapped : Json) : Prop :=
  ∃ l : Learnt, (∀ line, Dap.lineOf? breakpoint "line" = some line → l.Of k (reportedSource pending breakpoint) line) ∧
    mapped = (l.mapBack pending breakpoint).getD breakpoint

/-- A frame and what becomes of it. -/
def Shown (k : Knowledge) (frame shown : Json) : Prop :=
  ∃ l : Learnt, (∀ source line, compiledPlace? frame = some (source, line) → l.Of k ⟨source⟩ line) ∧
    shown = (l.showFrame frame).getD frame

/-- What a message becomes, and what is pending afterwards. -/
inductive Outcome (k : Knowledge) (s : Session) : Side → Json → Json → List Pending → Prop where
  /-- It goes on as it came, and is no response to a pending request while mapping is on. -/
  | kept {side : Side} {message : Json}
      (unasked : ∀ n, side = .adapter → s.settings.enabled = true → answeredSeq? message = some n →
        s.pending.find? (·.requestSeq = n) = none) :
      Outcome k s side message message s.pending
  | redirected {message arguments out : Json} {n : Int} {p : Pending} (enabled : s.settings.enabled = true)
      (numbered : requestSeq? message = some n) (has : message.get? "arguments" = some arguments)
      (redirected : RedirectedTo k s.caches n arguments message out p) :
      Outcome k s .client message out (p :: without s.pending n)
  | answered {message out : Json} {n : Int} {success : Bool} {p : Pending} (enabled : s.settings.enabled = true)
      (route : adapterRoute message = .mapBack n success) (waits : s.pending.find? (·.requestSeq = n) = some p)
      (mapped : if success then ChangedItems "breakpoints" (MappedBack k p) message out else out = message) :
      Outcome k s .adapter message out (without s.pending n)
  | shown {message out : Json} (enabled : s.settings.enabled = true) (route : adapterRoute message = .showTrace)
      (frames : ChangedItems "stackFrames" (Shown k) message out) :
      Outcome k s .adapter message out s.pending

variable {k : Knowledge} {machine : Host (StateM Clock)} {c : Caches} {s : Session}

/-! ## Caches -/

theorem Caches.Meet.readFresh (h : c.Meet k) (hk : k.On machine) (p : Path) :
    Always (c.readFresh machine p) fun r => (∀ ms, r.1 = some ms → k.gives p ms) ∧ r.2.Meet k := by
  refine (hk.reads.fresh h.markers p).andThen ?_
  rintro ⟨ms, cache⟩ ⟨hms, hcache⟩
  exact .of_pure ⟨hms, hcache, h.resolver, h.locator⟩

theorem Caches.Meet.readCached (h : c.Meet k) (hk : k.On machine) (p : Path) :
    Always (c.readCached machine p) fun r => (∀ ms, r.1 = some ms → k.gives p ms) ∧ r.2.Meet k := by
  refine (hk.reads.cached h.markers p).andThen ?_
  rintro ⟨ms, cache⟩ ⟨hms, hcache⟩
  exact .of_pure ⟨hms, hcache, h.resolver, h.locator⟩

theorem Caches.Meet.resolve (h : c.Meet k) (hk : k.On machine) (ref : String) :
    Always (c.resolve machine ref) fun r => k.finds ref r.1 ∧ r.2.Meet k := by
  refine (hk.resolve h.resolver ref).andThen ?_
  rintro ⟨found, resolver⟩ ⟨hfound, hresolver⟩
  exact .of_pure ⟨hfound, h.markers, hresolver, h.locator⟩

theorem Caches.Meet.locate (h : c.Meet k) (hk : k.On machine) (template : Path) (refs : List String) :
    Always (c.locate machine template refs) fun r =>
      (∀ p, r.1 = some p → Source.isCompiled p.text = true) ∧ r.2.Meet k := by
  refine (Compiled.Locator.find_located hk.reads h.locator h.markers).andThen ?_
  rintro ⟨found, locator, markers⟩ ⟨hfound, hlocator, hmarkers⟩
  exact .of_pure ⟨hfound, hmarkers, h.resolver, hlocator⟩

/-! ## Handlers -/

/-- Caches that are as is known answer as is known, as far as they give markers and find compiled sources. -/
def View.ofKnowledge (k : Knowledge) : View where
  caches := Caches.Meet k
  fresh p found := ∀ ms, found = some ms → k.gives p ms
  cached p found := ∀ ms, found = some ms → k.gives p ms
  finds := k.finds
  locates _ found := ∀ p, found = some p → Source.isCompiled p.text = true

theorem View.ofKnowledge_on (hk : k.On machine) : (View.ofKnowledge k).On machine where
  fresh h p := h.readFresh hk p
  cached h p := h.readCached hk p
  resolve h ref := h.resolve hk ref
  locate h template := h.locate hk template _

theorem View.Redirected.known {requestSeq : Int} {arguments request out : Json} {p : Pending}
    (h : (View.ofKnowledge k).Redirected c requestSeq arguments request (some (out, p))) :
    RedirectedTo k c requestSeq arguments request out p := by
  obtain ⟨found, markers, hanswers, hredirected⟩ := h
  simp only [redirectWith, Eq.comm (a := some (out, p)), Option.bind_eq_some_iff] at hredirected
  obtain ⟨template, ht, compiled, rfl, ms, rfl, hredirected⟩ := hredirected
  obtain ⟨hcompiled, hgives⟩ := hanswers template ht
  split at hredirected
  · cases hredirected
  · rename_i hmoved
    cases hredirected
    exact ⟨template, compiled, ms, _, ht, rfl, hcompiled compiled rfl, hgives compiled rfl ms rfl, hmoved, rfl, rfl⟩

theorem View.MappedBack.known {pending : Pending} {breakpoint mapped : Json}
    (h : (View.ofKnowledge k).MappedBack pending breakpoint mapped) :
    Session.MappedBack k pending breakpoint mapped := by
  obtain ⟨l, hl, hmapped⟩ := h
  exact ⟨l, fun line hline => ⟨(hl line hline).markers, (hl line hline).found⟩, hmapped⟩

theorem View.Shown.known {frame shown : Json} (h : (View.ofKnowledge k).Shown frame shown) :
    Session.Shown k frame shown := by
  obtain ⟨l, hl, hshown⟩ := h
  exact ⟨l, fun source line hp => ⟨(hl source line hp).markers, (hl source line hp).found⟩, hshown⟩

/-! ## Messages -/

theorem redirectRequest_outcome (hs : s.caches.Meet k) (hk : k.On machine) (hon : s.settings.enabled = true)
    {message : Json} (hroute : clientRoute message = .redirect) :
    Always (s.redirectRequest machine message) fun r =>
      Outcome k s .client message r.1 r.2.pending ∧ r.2.settings = s.settings ∧ r.2.caches.Meet k := by
  unfold redirectRequest
  cases hparts : requestParts message with
  | error e =>
    refine (settle_eq s _ _ _).andThen ?_
    rintro _ rfl
    exact .of_pure ⟨.kept (by simp), rfl, hs⟩
  | ok parts =>
    obtain ⟨n, arguments⟩ := parts
    obtain ⟨hn, ha⟩ := requestParts_eq_ok hparts
    refine (redirect_view (View.ofKnowledge_on hk) hs n arguments message).andThen ?_
    rintro ⟨redirected, c⟩ ⟨hto, hc⟩
    cases redirected with
    | none => exact .of_pure ⟨.kept (by simp), rfl, hc⟩
    | some redirected =>
      obtain ⟨out, p⟩ := redirected
      have hnumbered : requestSeq? message = some n := by rw [requestSeq?, if_pos hroute, hn]
      exact .of_pure ⟨.redirected hon hnumbered ha hto.known, rfl, hc⟩

theorem answerRequest_outcome (hs : s.caches.Meet k) (hk : k.On machine) (hon : s.settings.enabled = true)
    {message : Json} {n : Int} {success : Bool} (hroute : adapterRoute message = .mapBack n success) :
    Always (s.answerRequest machine n success message) fun r =>
      Outcome k s .adapter message r.1 r.2.pending ∧ r.2.settings = s.settings ∧ r.2.caches.Meet k := by
  unfold answerRequest
  cases hp : s.pending.find? fun p => p.requestSeq = n with
  | none =>
    refine .of_pure ⟨.kept ?_, rfl, hs⟩
    intro n' _ _ hn'
    simp only [answeredSeq?, hroute, Option.some.injEq] at hn'
    exact hn' ▸ hp
  | some p =>
    cases success with
    | false => exact .of_pure ⟨.answered hon hroute hp rfl, rfl, hs⟩
    | true =>
      refine (answer_view (View.ofKnowledge_on hk) hs p message).andThen ?_
      rintro ⟨outcome, c⟩ ⟨hchanged, hc⟩
      refine (settle_eq _ _ _ _).andThen ?_
      rintro _ rfl
      exact .of_pure ⟨.answered hon hroute hp (hchanged.mono fun _ _ => View.MappedBack.known), rfl, hc⟩

theorem mapTrace_outcome (hs : s.caches.Meet k) (hk : k.On machine) (hon : s.settings.enabled = true)
    {message : Json} (hroute : adapterRoute message = .showTrace) :
    Always (s.mapTrace machine message) fun r =>
      Outcome k s .adapter message r.1 r.2.pending ∧ r.2.settings = s.settings ∧ r.2.caches.Meet k := by
  refine (showTrace_view (View.ofKnowledge_on hk).toShows hs message).andThen ?_
  rintro ⟨outcome, c⟩ ⟨hchanged, hc⟩
  refine (settle_eq _ _ _ _).andThen ?_
  rintro _ rfl
  exact .of_pure ⟨.shown hon hroute (hchanged.mono fun _ _ => View.Shown.known), rfl, hc⟩

/-- A message has one of the outcomes, and what is known stays known. -/
theorem pass_outcome (hs : s.caches.Meet k) (hk : k.On machine) (side : Side) (message : Json) :
    Always (Relay.pass machine side message s) fun r =>
      Outcome k s side message r.1 r.2.pending ∧ r.2.settings = s.settings ∧ r.2.caches.Meet k := by
  rw [pass_eq]
  by_cases hon : s.settings.enabled = true
  · rw [if_pos hon]
    cases side with
    | client =>
      rw [Direct.route]
      rcases clientRoute_cases message with hroute | hroute
      · rw [hroute]
        exact redirectRequest_outcome hs hk hon hroute
      · rw [hroute]
        exact .of_pure ⟨.kept (by simp), rfl, hs⟩
    | adapter =>
      rw [Direct.route]
      cases hroute : adapterRoute message with
      | mapBack n success => exact answerRequest_outcome hs hk hon hroute
      | showTrace => exact mapTrace_outcome hs hk hon hroute
      | redirect => exact absurd hroute (Direct.adapterRoute_ne_redirect message)
      | pass => exact .of_pure ⟨.kept (by simp [answeredSeq?, hroute]), rfl, hs⟩
  · rw [if_neg hon]
    exact .of_pure ⟨.kept fun _ _ h => absurd h hon, rfl, hs⟩

end TemplateDebug.Session
