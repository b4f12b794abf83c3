import Mathlib.Data.Set.Card
import TemplateDebug.Proofs.Session.History
/-!
# The requests that wait

What is pending is what the history of a session says: the requests that were redirected and not answered since. So it
is as long as mapping is on whenever a response arrives, and no two requests have one number. Any failure on the way
of a request leaves it out, and any response, however it went and whatever it holds, takes its request off.
-/

namespace TemplateDebug.Session

open Relay (Side)

namespace Passage

/-- The passage sent a request for a template, under this number, to a compiled source. -/
structure Redirects (n : Int) (template compiled : Path) (p : Passage) : Prop where
  side : p.side = .client
  number : requestSeq? p.message = some n
  asked : askedSource? p.message = some template.text
  sent : askedSource? p.out = some compiled.text
  moved : compiled ≠ template

/-- The passage brought a response to the request under this number. -/
def Answers (n : Int) (p : Passage) : Prop := p.side = .adapter ∧ answeredSeq? p.message = some n

/-- The number of a request. -/
def number? (p : Passage) : Option Int := if p.side = .client then requestSeq? p.message else none

end Passage

/-- A request was redirected, and no response to it came since. -/
def Awaited (history : List Passage) (n : Int) (template compiled : Path) : Prop :=
  ∃ since request before, history = since ++ request :: before ∧ request.Redirects n template compiled ∧
    ∀ p ∈ since, ¬ p.Answers n

variable {machines : Set (Host (StateM Clock))} {machine : Host (StateM Clock)} {history : List Passage} {s : Session}
  {k : Knowledge} {n : Int} {template compiled : Path} {p : Passage} {pending pending' : List Pending}

/-! ## Histories -/

theorem Passage.Redirects.not_answers (h : p.Redirects n template compiled) (n' : Int) : ¬ p.Answers n' := by
  intro ha
  cases h.side.symm.trans ha.1

theorem Passage.Redirects.number?_eq (h : p.Redirects n template compiled) : p.number? = some n := by
  rw [number?, if_pos h.side, h.number]

/-- What goes on as it came is not redirected. -/
theorem Passage.not_redirects_of_kept (h : p.out = p.message) : ¬ p.Redirects n template compiled := by
  intro hr
  have hsent := hr.sent
  rw [h, hr.asked] at hsent
  exact hr.moved (Path.ext (Option.some.inj hsent).symm)

theorem not_awaited_nil : ¬ Awaited [] n template compiled := by
  rintro ⟨since, request, before, heq, -, -⟩
  cases since <;> cases heq

theorem awaited_cons_iff :
    Awaited (p :: history) n template compiled ↔
      p.Redirects n template compiled ∨ ¬ p.Answers n ∧ Awaited history n template compiled := by
  constructor
  · rintro ⟨since, request, before, heq, hr, hno⟩
    cases since with
    | nil =>
      cases heq
      exact .inl hr
    | cons q since =>
      cases heq
      exact .inr ⟨hno p List.mem_cons_self, since, request, before, rfl, hr,
        fun x hx => hno x (List.mem_cons_of_mem _ hx)⟩
  · rintro (hr | ⟨hno, since, request, before, rfl, hr, hnone⟩)
    · exact ⟨[], p, history, rfl, hr, by simp⟩
    · refine ⟨p :: since, request, before, rfl, hr, ?_⟩
      intro x hx
      rcases List.mem_cons.1 hx with rfl | hx
      · exact hno
      · exact hnone x hx

theorem Awaited.number_mem (h : Awaited history n template compiled) : n ∈ history.filterMap (·.number?) := by
  obtain ⟨since, request, before, rfl, hr, -⟩ := h
  exact List.mem_filterMap.2 ⟨request, by simp, hr.number?_eq⟩

/-! ## One passage -/

/-- What is pending is what the history awaits, each under a number of its own. -/
structure Waits (history : List Passage) (pending : List Pending) : Prop where
  awaited : ∀ n template compiled,
    (∃ q ∈ pending, q.requestSeq = n ∧ q.template = template ∧ q.compiled = compiled) ↔
      Awaited history n template compiled
  nodup : (pending.map (·.requestSeq)).Nodup

theorem waits_nil : Waits [] [] where
  awaited n template compiled := ⟨by simp, fun h => absurd h not_awaited_nil⟩
  nodup := List.nodup_nil

/-- Nothing waits under a number that nothing awaits. -/
theorem Waits.find?_eq_none (h : Waits history pending) (hno : ∀ template compiled, ¬ Awaited history n template compiled) :
    pending.find? (·.requestSeq = n) = none := by
  refine List.find?_eq_none.2 fun q hq hn => ?_
  exact hno q.template q.compiled ((h.awaited _ _ _).1 ⟨q, hq, by simpa using hn, rfl, rfl⟩)

theorem nodup_without (h : (pending.map (·.requestSeq)).Nodup) (n : Int) :
    ((without pending n).map (·.requestSeq)).Nodup :=
  h.sublist (List.filter_sublist.map _)

theorem mem_without_iff {q : Pending} : q ∈ without pending n ↔ q ∈ pending ∧ q.requestSeq ≠ n := by
  simp [without]

/-- A passage that redirects nothing, and takes off what it answers, leaves what is awaited. -/
theorem Waits.next (h : Waits history pending) (hkeeps : ∀ n template compiled, ¬ p.Redirects n template compiled)
    (hmem : ∀ q, q ∈ pending' ↔ q ∈ pending ∧ ¬ p.Answers q.requestSeq)
    (hnodup : (pending'.map (·.requestSeq)).Nodup) : Waits (p :: history) pending' where
  awaited n template compiled := by
    rw [awaited_cons_iff, ← h.awaited]
    constructor
    · rintro ⟨q, hq, rfl, rfl, rfl⟩
      obtain ⟨hq, hno⟩ := (hmem q).1 hq
      exact .inr ⟨hno, q, hq, rfl, rfl, rfl⟩
    · rintro (hr | ⟨hno, q, hq, rfl, rfl, rfl⟩)
      · exact absurd hr (hkeeps _ _ _)
      · exact ⟨q, (hmem q).2 ⟨hq, hno⟩, rfl, rfl, rfl⟩
  nodup := hnodup

/-- A passage that redirects a request under a number of its own adds that request to what is awaited. -/
theorem Waits.redirect {q : Pending} (h : Waits history pending)
    (hr : p.Redirects q.requestSeq q.template q.compiled) (hnew : q.requestSeq ∉ history.filterMap (·.number?)) :
    Waits (p :: history) (q :: without pending q.requestSeq) where
  awaited n template compiled := by
    rw [awaited_cons_iff, ← h.awaited]
    constructor
    · rintro ⟨x, hx, rfl, rfl, rfl⟩
      rcases List.mem_cons.1 hx with rfl | hx
      · exact .inl hr
      · exact .inr ⟨hr.not_answers _, x, (mem_without_iff.1 hx).1, rfl, rfl, rfl⟩
    · rintro (hr' | ⟨-, x, hx, rfl, rfl, rfl⟩)
      · -- the passage redirects one request
        have hn : q.requestSeq = n := Option.some.inj (hr.number.symm.trans hr'.number)
        have ht : q.template = template := Path.ext (Option.some.inj (hr.asked.symm.trans hr'.asked))
        have hc : q.compiled = compiled := Path.ext (Option.some.inj (hr.sent.symm.trans hr'.sent))
        exact ⟨q, List.mem_cons_self, hn, ht, hc⟩
      · have hawaited : Awaited history x.requestSeq x.template x.compiled :=
          (h.awaited _ _ _).1 ⟨x, hx, rfl, rfl, rfl⟩
        have hne : x.requestSeq ≠ q.requestSeq := fun heq => hnew (heq ▸ hawaited.number_mem)
        exact ⟨x, List.mem_cons_of_mem _ (mem_without_iff.2 ⟨hx, hne⟩), rfl, rfl, rfl⟩
  nodup := by
    rw [List.map_cons, List.nodup_cons]
    refine ⟨?_, nodup_without h.nodup _⟩
    intro hmem
    obtain ⟨x, hx, heq⟩ := List.mem_map.1 hmem
    exact (mem_without_iff.1 hx).2 heq

/-- What a redirected request asked for, and where it goes. -/
theorem RedirectedTo.redirects {c : Caches} {arguments message out : Json} {q : Pending}
    (h : RedirectedTo k c n arguments message out q) (hn : requestSeq? message = some n)
    (ha : message.get? "arguments" = some arguments) (enabled : Bool) :
    q.requestSeq = n ∧ (Passage.mk .client message enabled out).Redirects n q.template q.compiled := by
  obtain ⟨template, compiled, markers, refs, ht, -, hcompiled, -, -, rfl, rfl⟩ := h
  have htemplate : c.site.template? message = some template := by
    rw [Site.template?, ha, Option.bind_some]
    exact ht
  obtain ⟨hasked, hkind⟩ := Site.askedSource?_of_template? htemplate
  refine ⟨rfl, rfl, hn, hasked, ?_, ?_⟩
  · rw [askedSource?, ha, Option.bind_some] at hasked
    rw [askedSource?, Json.get?_set (Json.isObject_of_get? ha), Option.bind_some]
    exact sourcePath?_redirectArguments hasked
  · -- a compiled source is no template
    intro (heq : compiled = template)
    rw [← heq, Source.isTemplate_eq_false hcompiled] at hkind
    cases hkind

theorem not_answers_of_showTrace {message out : Json} {enabled : Bool} (h : adapterRoute message = .showTrace) :
    ¬ (Passage.mk .adapter message enabled out).Answers n := by
  rintro ⟨-, ha⟩
  simp [answeredSeq?, h] at ha

theorem answers_iff {message out : Json} {enabled success : Bool} {n' : Int}
    (h : adapterRoute message = .mapBack n success) :
    (Passage.mk .adapter message enabled out).Answers n' ↔ n = n' := by
  simp [Passage.Answers, answeredSeq?, h]

/-- One passage keeps it so that what is pending is what the history awaits. -/
theorem Outcome.waits {side : Side} {message out : Json} (ho : Outcome k s side message out pending')
    (h : Waits history s.pending)
    (hon : side = .adapter → answeredSeq? message ≠ none → s.settings.enabled = true)
    (hnew : ∀ n, side = .client → requestSeq? message = some n → n ∉ history.filterMap (·.number?)) :
    Waits (⟨side, message, s.settings.enabled, out⟩ :: history) pending' := by
  cases ho with
  | kept unasked =>
    refine h.next (fun n t c => Passage.not_redirects_of_kept rfl) ?_ h.nodup
    intro q
    constructor
    · intro hq
      refine ⟨hq, ?_⟩
      -- were it a response to one that waits, it would not have been passed over
      rintro ⟨hside, ha⟩
      have hnone := unasked _ hside (hon hside (by rw [ha]; simp)) ha
      exact absurd (List.find?_eq_none.1 hnone q hq) (by simp)
    · exact And.left
  | redirected enabled numbered has redirected =>
    rename_i arguments n q
    obtain ⟨rfl, hr⟩ := redirected.redirects numbered has s.settings.enabled
    exact h.redirect hr (hnew _ rfl numbered)
  | answered enabled route waits mapped =>
    refine h.next (fun n t c hr => by cases hr.side) ?_ (nodup_without h.nodup _)
    intro q
    rw [mem_without_iff, answers_iff route]
    exact and_congr_right fun _ => ne_comm
  | shown enabled route frames =>
    refine h.next (fun n t c hr => by cases hr.side) ?_ h.nodup
    intro q
    exact ⟨fun hq => ⟨hq, not_answers_of_showTrace route⟩, And.left⟩

/-! ## Runs -/

/-- Mapping was on whenever a response arrived. -/
def AlwaysOn (history : List Passage) : Prop :=
  ∀ p ∈ history, p.side = .adapter → answeredSeq? p.message ≠ none → p.enabled = true

theorem Met.waits (h : Met machines history s) (hon : AlwaysOn history)
    (hdistinct : (history.filterMap (·.number?)).Nodup) : Waits history s.pending := by
  -- on the passages: what is assumed of a history holds of the shorter one too
  induction h with
  | fresh settings env roots => exact waits_nil
  | updated _ settings env ih => exact ih hon hdistinct
  | passed met hm side message clock ih =>
    rename_i history s machine
    have hrest : (history.filterMap (·.number?)).Nodup :=
      hdistinct.sublist ((List.sublist_cons_self _ _).filterMap _)
    refine (met.outcome hm side message clock).waits
      (ih (fun p hp => hon p (List.mem_cons_of_mem _ hp)) hrest) (hon _ List.mem_cons_self) ?_
    -- a number met before would be there twice
    intro n hside hn hmem
    have hnumber : Passage.number? ⟨side, message, s.settings.enabled,
        (Relay.pass machine side message s clock).1.1⟩ = some n := by
      rw [Passage.number?, if_pos hside, hn]
    rw [List.filterMap_cons_some hnumber] at hdistinct
    exact (List.nodup_cons.1 hdistinct).1 hmem

/-- A response to nothing that is pending goes on as it came. -/
theorem pass_unasked {response : Json} (ha : answeredSeq? response = some n)
    (hp : s.pending.find? (·.requestSeq = n) = none) (clock : Clock) :
    (Relay.pass machine .adapter response s clock).1 = (response, s) := by
  have hroute : ∃ success, adapterRoute response = .mapBack n success := by
    unfold answeredSeq? at ha
    split at ha
    · rename_i n' success hr
      cases ha
      exact ⟨success, hr⟩
    · cases ha
  obtain ⟨success, hroute⟩ := hroute
  rw [pass_eq, Direct.route, hroute]
  split
  · simp only [follow, answerRequest, hp]
    rfl
  · rfl

/-- After any history in which mapping is on whenever a response arrives, and requests have numbers of their own, the
pending requests are those that the history awaits, each with its template and where it went; there are as many; and a
response to any other changes nothing. -/
theorem pending_eq_awaited (h : Met machines history s) (hon : AlwaysOn history)
    (hdistinct : (history.filterMap (·.number?)).Nodup) :
    (∀ n template compiled,
      (∃ q ∈ s.pending, q.requestSeq = n ∧ q.template = template ∧ q.compiled = compiled) ↔
        Awaited history n template compiled) ∧
    s.pending.length = {n | ∃ template compiled, Awaited history n template compiled}.ncard ∧
    ∀ response n, answeredSeq? response = some n → (∀ template compiled, ¬ Awaited history n template compiled) →
      ∀ (machine : Host (StateM Clock)) (clock : Clock),
        (Relay.pass machine .adapter response s clock).1 = (response, s) := by
  have hw := h.waits hon hdistinct
  refine ⟨hw.awaited, ?_, fun response n ha hno machine clock => pass_unasked ha (hw.find?_eq_none hno) clock⟩
  have hset : {n | ∃ template compiled, Awaited history n template compiled} =
      ((s.pending.map (·.requestSeq)).toFinset : Set Int) := by
    ext n
    simp only [Set.mem_ofPred_eq, List.coe_toFinset, List.mem_map, ← hw.awaited]
    constructor
    · rintro ⟨t, c, q, hq, hn, -, -⟩
      exact ⟨q, hq, hn⟩
    · rintro ⟨q, hq, hn⟩
      exact ⟨q.template, q.compiled, q, hq, hn, rfl, rfl⟩
  rw [hset, Set.ncard_coe_finset, List.toFinset_card_of_nodup hw.nodup, List.length_map]

namespace Sample

/-- Two requests are redirected, and the first has failed. -/
def exchange : List Passage × Session :=
  passAll servlet.tickingHost (Stream'.const 0)
    [(.client, request 1 "/ws/a.jsp" [1]), (.client, request 2 "/ws/a.jsp" [1]),
      (.adapter, .obj [("command", .str "setBreakpoints"), ("request_seq", .int 1), ("success", .bool false),
        ("type", .str "response")])] [] (session 0)

end Sample

/-- Of two redirected requests, the one without a response is awaited. -/
theorem awaited_exchange :
    Awaited Sample.exchange.1 2 ⟨"/ws/a.jsp"⟩ ⟨"/work/a_jsp.java"⟩ ∧
      {n | ∃ template compiled, Awaited Sample.exchange.1 n template compiled}.ncard = 1 := by
  have hmet : Met {Sample.servlet.tickingHost} Sample.exchange.1 Sample.exchange.2 :=
    (Met.fresh (Sample.settings 0) ⟨[]⟩ [⟨"/ws"⟩]).passAll (Set.mem_singleton _) _ _
  have hon : AlwaysOn Sample.exchange.1 := by
    have hall : ∀ p ∈ Sample.exchange.1, p.enabled = true := by decide +kernel
    exact fun p hp _ _ => hall p hp
  have hdistinct : (Sample.exchange.1.filterMap (·.number?)).Nodup := by decide +kernel
  obtain ⟨hawaited, hlength, -⟩ := pending_eq_awaited hmet hon hdistinct
  have hone : ∃ q ∈ Sample.exchange.2.pending, q.requestSeq = 2 ∧ q.template = ⟨"/ws/a.jsp"⟩ ∧
      q.compiled = ⟨"/work/a_jsp.java"⟩ := by decide +kernel
  refine ⟨(hawaited _ _ _).1 hone, hlength.symm.trans ?_⟩
  decide +kernel

end TemplateDebug.Session
