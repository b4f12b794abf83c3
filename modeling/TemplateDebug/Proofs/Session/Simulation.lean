import TemplateDebug.Proofs.Session.Faithful
/-!
# Handling a message with faithful caches

Each handler of a session, on faithful caches, gives what the session without caches gives, and leaves the caches
faithful. `pass_direct` sums this up for a message from either side.
-/

namespace TemplateDebug.Session

variable {past : Set Disk} {disk : Disk} {site : Site} {times : Times} {c : Caches}

/-- Faithful caches answer as the disk does; the markers of breakpoints are those of the disk when their source can
only be read as it is. -/
def View.faithful (past : Set Disk) (disk : Disk) (site : Site) (times : Times) : View where
  caches := Caches.Faithful past disk site times
  fresh p ms := ms = disk.markers p
  cached p ms := MarkerCache.Timely past disk times.debounce p → ms = disk.markers p
  finds ref found := found = disk.search site.webRoots ref
  locates template found := found = site.compiled? disk template

theorem View.faithful_on (hd : disk ∈ past) (ht : Disk.TellsVersions past) :
    (View.faithful past disk site times).On disk.tickingHost where
  fresh h _ := h.readFresh hd ht
  cached h _ := h.readCached hd ht
  resolve h _ := h.resolve
  locate {c} h template := by
    have hrefs : Template.plausibleRefs template c.resolver.webRoots = site.refsOf template := by
      rw [← h.site_eq]
      rfl
    rw [hrefs]
    exact h.locate hd ht

/-! ## Lists of a body -/

/-- Items that each become what a function makes of them. -/
theorem eq_map_of_forall₂ {α β : Type} {R : α → β → Prop} {f : α → β} {as : List α} {bs : List β}
    (h : List.Forall₂ R as bs) (hR : ∀ a ∈ as, ∀ b, R a b → b = f a) : bs = as.map f := by
  induction h with
  | nil => rfl
  | cons hab _ ih =>
    rw [List.map_cons, hR _ List.mem_cons_self _ hab, ih fun a ha => hR a (List.mem_cons_of_mem _ ha)]

/-- A response whose items each become what a function makes of them. -/
theorem ChangedItems.eq_changeItems {key : String} {R : Json → Json → Prop} {change? : Json → Option Json}
    {response changed : Json} (h : ChangedItems key R response changed)
    (hR : ∀ items, bodyItems key response = .ok items → ∀ i ∈ items, ∀ i', R i i' → i' = (change? i).getD i) :
    changed = Site.changeItems key change? response := by
  unfold ChangedItems at h
  unfold Site.changeItems
  cases hitems : bodyItems key response with
  | error e => simpa [hitems] using h
  | ok items =>
    rw [hitems] at h
    obtain ⟨items', hall, rfl⟩ := h
    rw [eq_map_of_forall₂ hall (hR items hitems)]

/-! ## Requests -/

theorem redirect_direct (h : c.Faithful past disk site times) (hd : disk ∈ past) (ht : Disk.TellsVersions past)
    (requestSeq : Int) (arguments request : Json) :
    Always (redirect disk.tickingHost requestSeq arguments request c) fun r =>
      r.1 = site.redirect disk requestSeq arguments request ∧ r.2.Faithful past disk site times := by
  refine (redirect_view (View.faithful_on hd ht) h requestSeq arguments request).mono ?_
  rintro ⟨_, c'⟩ ⟨⟨found, markers, hanswers, rfl⟩, h'⟩
  refine ⟨?_, h'⟩
  rw [← h.site_eq] at hanswers ⊢
  unfold redirectWith Site.redirect
  change (c.site.templateOf? arguments).bind _ = _
  cases htemplate : c.site.templateOf? arguments with
  | none => rfl
  | some template =>
    obtain ⟨rfl, hmarkers⟩ := hanswers template htemplate
    simp only [Option.bind_some]
    cases hcompiled : c.site.compiled? disk template with
    | none => rfl
    | some compiled =>
      rw [hmarkers compiled hcompiled]
      rfl

/-! ## Responses -/

/-- With the markers of the disk, a line has the place that it has there. -/
theorem Learnt.Answers.place?_eq {l : Learnt} {source : Path} {line : Nat} {finds : String → Option Path → Prop}
    (h : l.Answers (· = disk.markers source) finds line) : l.place? line = Site.placeOf? disk source line := by
  rw [Learnt.place?, h.markers]
  rfl

/-- What becomes of a breakpoint of a response: what becomes of it without caches, when its compiled source can only
be read as it is. -/
def AnsweredAs (past : Set Disk) (disk : Disk) (site : Site) (times : Times) (pending : Pending)
    (breakpoint answered : Json) : Prop :=
  MarkerCache.Timely past disk times.debounce (reportedSource pending breakpoint) →
    answered = (site.mapBack disk pending breakpoint).getD breakpoint

theorem View.MappedBack.answeredAs {pending : Pending} {breakpoint mapped : Json}
    (h : (View.faithful past disk site times).MappedBack pending breakpoint mapped) :
    AnsweredAs past disk site times pending breakpoint mapped := by
  obtain ⟨l, hl, rfl⟩ := h
  intro hq
  unfold Learnt.mapBack Site.mapBack
  cases hline : Dap.lineOf? breakpoint "line" with
  | none => rfl
  | some line =>
    have hl' : l.Answers (· = disk.markers (reportedSource pending breakpoint))
        (fun ref found => found = disk.search site.webRoots ref) line :=
      ⟨(hl line hline).markers hq, (hl line hline).found⟩
    simp only [Option.bind_some, hl'.place?_eq]
    cases hplace : Site.placeOf? disk (reportedSource pending breakpoint) line with
    | none => rfl
    | some place =>
      rw [hl'.found place (hl'.place?_eq.trans hplace)]
      rfl

/-- The response to a redirected request, breakpoint by breakpoint. -/
def Answered (past : Set Disk) (disk : Disk) (site : Site) (times : Times) (pending : Pending)
    (response answered : Json) : Prop :=
  match bodyItems "breakpoints" response with
  | .error _ => answered = response
  | .ok breakpoints => ∃ items, List.Forall₂ (AnsweredAs past disk site times pending) breakpoints items ∧
      answered = setBodyItems "breakpoints" items response

theorem answer_direct (h : c.Faithful past disk site times) (hd : disk ∈ past) (ht : Disk.TellsVersions past)
    (pending : Pending) (response : Json) :
    Always (answer disk.tickingHost pending response c) fun r =>
      Answered past disk site times pending response (r.1.toOption.getD response) ∧
        r.2.Faithful past disk site times :=
  (answer_view (View.faithful_on hd ht) h pending response).mono fun _ hr =>
    ⟨hr.1.mono fun _ _ => View.MappedBack.answeredAs, hr.2⟩

/-- When no breakpoint of a response can be read from an old version, the response is the one without caches. -/
theorem Answered.eq_changeItems {pending : Pending} {response answered : Json}
    (h : Answered past disk site times pending response answered)
    (hq : ∀ breakpoints, bodyItems "breakpoints" response = .ok breakpoints → ∀ b ∈ breakpoints,
      MarkerCache.Timely past disk times.debounce (reportedSource pending b)) :
    answered = Site.changeItems "breakpoints" (site.mapBack disk pending) response :=
  ChangedItems.eq_changeItems h fun breakpoints hb b hmem _ hanswered => hanswered (hq breakpoints hb b hmem)

/-! ## Stack traces -/

/-- With the markers of the disk and the files that it answers, a frame is shown as without caches. -/
theorem View.Shown.eq_showFrame {v : View} {frame shown : Json} (h : v.Shown frame shown)
    (hfresh : ∀ p ms, v.fresh p ms → ms = disk.markers p)
    (hfinds : ∀ ref found, v.finds ref found → found = disk.search site.webRoots ref) :
    shown = (site.showFrame disk frame).getD frame := by
  obtain ⟨l, hl, rfl⟩ := h
  unfold Learnt.showFrame Site.showFrame
  cases hp : compiledPlace? frame with
  | none => rfl
  | some compiled =>
    obtain ⟨source, line⟩ := compiled
    have hl' : l.Answers (· = disk.markers ⟨source⟩) (fun ref found => found = disk.search site.webRoots ref) line :=
      ⟨hfresh _ _ (hl source line hp).markers, fun place hplace => hfinds _ _ ((hl source line hp).found place hplace)⟩
    simp only [Option.bind_some, hl'.place?_eq]
    cases hplace : Site.placeOf? disk ⟨source⟩ line with
    | none => rfl
    | some place =>
      rw [hl'.found place (hl'.place?_eq.trans hplace)]
      rfl

theorem showTrace_direct (h : c.Faithful past disk site times) (hd : disk ∈ past) (ht : Disk.TellsVersions past)
    (response : Json) :
    Always (showTrace disk.tickingHost response c) fun r =>
      r.1.toOption.getD response = Site.changeItems "stackFrames" (site.showFrame disk) response ∧
        r.2.Faithful past disk site times := by
  refine (showTrace_view (View.faithful_on hd ht).toShows h response).mono ?_
  rintro r ⟨hshown, h'⟩
  refine ⟨hshown.eq_changeItems fun _ _ f _ shown hf => ?_, h'⟩
  exact hf.eq_showFrame (fun _ _ => id) fun _ _ => id

/-! ## Messages -/

/-- The session without what it remembers of the disk. -/
def direct (s : Session) : Direct := ⟨s.settings.enabled, s.caches.site, s.pending⟩

/-- The session has faithful caches, and is otherwise the one without caches. -/
structure Mirrors (past : Set Disk) (disk : Disk) (times : Times) (d : Direct) (s : Session) : Prop where
  faithful : s.caches.Faithful past disk d.site times
  direct_eq : s.direct = d

variable {s : Session} {d : Direct}

theorem mirrors_new (past : Set Disk) (disk : Disk) (settings : DebugSettings) (env : Environment) (roots : List Path) :
    (new settings env roots).Mirrors past disk
      ⟨nanosOfMillis settings.compiledCacheDebounceMs, nanosOfMillis settings.resolvedPathTtlMs,
        nanosOfMillis settings.discoveryTtlMs⟩ (.new settings env roots) where
  faithful := Caches.faithful_new past disk settings env roots
  direct_eq := rfl

theorem Mirrors.enabled (h : s.Mirrors past disk times d) : s.settings.enabled = d.enabled :=
  congrArg Direct.enabled h.direct_eq

theorem Mirrors.pending (h : s.Mirrors past disk times d) : s.pending = d.pending :=
  congrArg Direct.pending h.direct_eq

/-- Caches and pending requests change, the rest stays. -/
theorem Mirrors.next (h : s.Mirrors past disk times d) {caches : Caches} {pending : List Pending}
    (hc : caches.Faithful past disk d.site times) :
    Mirrors past disk times { d with pending } { s with caches, pending } where
  faithful := hc
  direct_eq := by simp only [direct, h.enabled, hc.site_eq]

theorem Mirrors.keep (h : s.Mirrors past disk times d) {caches : Caches}
    (hc : caches.Faithful past disk d.site times) : Mirrors past disk times d { s with caches } where
  faithful := hc
  direct_eq := by simp only [direct, h.enabled, hc.site_eq, h.pending]

theorem settle_eq {machine : Host (StateM Clock)} (s : Session) (what : String) (message : Json)
    (outcome : Except Fault Json) :
    Always (s.settle machine what message outcome) fun r => r = outcome.toOption.getD message := by
  cases outcome with
  | ok mapped => exact .of_pure rfl
  | error e => exact .any fun _ => .of_pure rfl

theorem redirectRequest_direct (h : s.Mirrors past disk times d) (hd : disk ∈ past)
    (ht : Disk.TellsVersions past) (message : Json) :
    Always (s.redirectRequest disk.tickingHost message) fun r =>
      r.1 = (d.redirectRequest disk message).1 ∧
        r.2.Mirrors past disk times (d.redirectRequest disk message).2 := by
  unfold redirectRequest Direct.redirectRequest
  cases requestParts message with
  | error e =>
    refine (settle_eq s _ _ _).andThen ?_
    rintro _ rfl
    exact .of_pure ⟨rfl, h⟩
  | ok parts =>
    obtain ⟨requestSeq, arguments⟩ := parts
    refine (redirect_direct h.faithful hd ht requestSeq arguments message).andThen ?_
    rintro ⟨_, c⟩ ⟨rfl, hc⟩
    dsimp only
    cases d.site.redirect disk requestSeq arguments message with
    | none => exact .of_pure ⟨rfl, h.keep hc⟩
    | some redirected =>
      obtain ⟨out, p⟩ := redirected
      dsimp only
      rw [h.pending]
      exact .of_pure ⟨rfl, h.next hc⟩

/-- What a session says to a response, and what is left pending. -/
theorem answerRequest_direct (h : s.Mirrors past disk times d) (hd : disk ∈ past)
    (ht : Disk.TellsVersions past) (requestSeq : Int) (success : Bool) (message : Json) :
    Always (s.answerRequest disk.tickingHost requestSeq success message) fun r =>
      (match d.pending.find? fun p => p.requestSeq = requestSeq with
        | none => r.1 = message
        | some p => if success then Answered past disk d.site times p message r.1 else r.1 = message) ∧
        r.2.Mirrors past disk times (d.answerRequest disk requestSeq success message).2 := by
  unfold answerRequest Direct.answerRequest
  rw [h.pending]
  cases d.pending.find? fun p => p.requestSeq = requestSeq with
  | none => exact .of_pure ⟨rfl, h⟩
  | some p =>
    cases success with
    | false => exact .of_pure ⟨rfl, h.next h.faithful⟩
    | true =>
      refine (answer_direct h.faithful hd ht p message).andThen ?_
      rintro ⟨outcome, c⟩ ⟨ho, hc⟩
      refine (settle_eq _ _ _ _).andThen ?_
      rintro _ rfl
      exact .of_pure ⟨ho, h.next hc⟩

theorem mapTrace_direct (h : s.Mirrors past disk times d) (hd : disk ∈ past)
    (ht : Disk.TellsVersions past) (message : Json) :
    Always (s.mapTrace disk.tickingHost message) fun r =>
      r.1 = Site.changeItems "stackFrames" (d.site.showFrame disk) message ∧
        r.2.Mirrors past disk times d := by
  refine (showTrace_direct h.faithful hd ht message).andThen ?_
  rintro ⟨outcome, c⟩ ⟨ho, hc⟩
  refine (settle_eq _ _ _ _).andThen ?_
  rintro _ rfl
  exact .of_pure ⟨ho, h.keep hc⟩

/-- When a response is mapped back for any of the pending requests, its breakpoints can only be read as they are. -/
def Prompt (past : Set Disk) (disk : Disk) (times : Times) (pending : List Pending) (message : Json) : Prop :=
  ∀ requestSeq success, adapterRoute message = .mapBack requestSeq success → ∀ p ∈ pending,
    ∀ breakpoints, bodyItems "breakpoints" message = .ok breakpoints → ∀ b ∈ breakpoints,
      MarkerCache.Timely past disk times.debounce (reportedSource p b)

theorem prompt_untrusted {pending : List Pending} {message : Json} (h : times.debounce = 0) :
    Prompt past disk times pending message :=
  fun _ _ _ _ _ _ _ _ _ => .inl h

theorem clientRoute_cases (message : Json) : clientRoute message = .redirect ∨ clientRoute message = .pass := by
  unfold clientRoute
  split
  · split
    · exact .inl rfl
    · exact .inr rfl
  · exact .inr rfl

theorem pass_eq (host : Host (StateM Clock)) (side : Relay.Side) (message : Json) (s : Session) :
    Relay.pass host side message s =
      if s.settings.enabled then s.follow host message (Direct.route side message) else pure (message, s) := by
  cases side <;> rfl

/-- A session with faithful caches handles a message as the session without caches does, and keeps its caches
faithful. -/
theorem pass_direct (h : s.Mirrors past disk times d) (hd : disk ∈ past) (ht : Disk.TellsVersions past)
    (side : Relay.Side) (message : Json) :
    Always (Relay.pass disk.tickingHost side message s) fun r =>
      ((side = .adapter → Prompt past disk times d.pending message) → r.1 = (d.pass disk side message).1) ∧
        r.2.Mirrors past disk times (d.pass disk side message).2 := by
  rw [pass_eq, h.enabled, Direct.pass]
  cases d.enabled with
  | false => exact .of_pure ⟨fun _ => rfl, h⟩
  | true =>
    simp only [if_true]
    cases hroute : Direct.route side message with
    | redirect => exact (redirectRequest_direct h hd ht message).mono fun r hr => ⟨fun _ => hr.1, hr.2⟩
    | showTrace => exact (mapTrace_direct h hd ht message).mono fun r hr => ⟨fun _ => hr.1, hr.2⟩
    | pass => exact .of_pure ⟨fun _ => rfl, h⟩
    | mapBack requestSeq success =>
      refine (answerRequest_direct h hd ht requestSeq success message).mono ?_
      rintro r ⟨hr, hm⟩
      -- a response is the one message whose answer may come from markers trusted unchecked
      refine ⟨fun hq => ?_, hm⟩
      simp only [Direct.follow, Direct.answerRequest]
      cases hp : d.pending.find? fun p => p.requestSeq = requestSeq with
      | none => simpa [hp] using hr
      | some p =>
        rw [hp] at hr
        cases success with
        | false => simpa using hr
        | true =>
          simp only [if_true] at hr ⊢
          cases side with
          | client => rcases clientRoute_cases message with hc | hc <;> cases hc.symm.trans hroute
          | adapter => exact hr.eq_changeItems (hq rfl _ _ hroute p (List.mem_of_find?_eq_some hp))

/-- New settings do to a session what they do to the one without caches. -/
theorem updateSettings_direct (h : s.Mirrors past disk times d) (settings : DebugSettings) (env : Environment) :
    (s.updateSettings settings env).Mirrors past disk
      ⟨nanosOfMillis settings.compiledCacheDebounceMs, nanosOfMillis settings.resolvedPathTtlMs,
        nanosOfMillis settings.discoveryTtlMs⟩ (d.updateSettings settings env) where
  faithful := h.faithful.reconfigure settings env
  direct_eq := by
    rw [← h.direct_eq]
    rfl

end TemplateDebug.Session
