import TemplateDebug.Proofs.Session.Pending
/-!
# The order of messages

The two sides send independently of each other. On a disk that stays as it is, what becomes of a message does not
depend on how they are interleaved: a request is redirected as the disk tells, and which request a response answers is
told by the requests and by the responses before it.
-/

namespace TemplateDebug

open Relay (Side)

namespace Session

/-- Requests that set breakpoints have numbers of their own, and their responses come after them. -/
structure Transcript.Orderly (t : Transcript) : Prop where
  distinct : ((t.from .client).filterMap requestSeq?).Nodup
  answered : t.Pairwise fun earlier later =>
    earlier.1 = .adapter → later.1 = .client → ∀ n ∈ answeredSeq? earlier.2, requestSeq? later.2 ≠ some n

end Session

namespace Direct

open Session

variable {disk : Disk} {d : Direct} {pending : List Pending} {message : Json} {p : Pending} {n : Int}

/-! ## What waits for a response -/

/-- The requests that wait for a response, after these messages from the client and these from the adapter. -/
def awaiting (disk : Disk) (d : Direct) (requests responses : List Json) : List Pending :=
  (requests.filterMap (d.leaves? disk)).filter fun p => p.requestSeq ∉ responses.filterMap answeredSeq?

variable {requests responses : List Json}

theorem find?_awaiting (disk : Disk) (d : Direct) (requests responses : List Json) (n : Int) :
    (d.awaiting disk requests responses).find? (·.requestSeq = n) =
      if n ∈ responses.filterMap answeredSeq? then none
      else (requests.filterMap (d.leaves? disk)).find? (·.requestSeq = n) := by
  unfold awaiting
  split
  · rename_i hn
    refine List.find?_eq_none.2 fun p hp hpn => ?_
    rw [decide_eq_true_eq] at hpn
    have := (List.mem_filter.1 hp).2
    simp [hpn, hn] at this
  · rename_i hn
    rw [List.find?_filter]
    congr 1
    funext p
    by_cases hpn : p.requestSeq = n <;> simp [hpn, hn]

/-- No request with this number waits when none was sent. -/
theorem find?_leaves?_eq_none (h : n ∉ requests.filterMap requestSeq?) :
    (requests.filterMap (d.leaves? disk)).find? (·.requestSeq = n) = none := by
  refine List.find?_eq_none.2 fun p hp hpn => h ?_
  obtain ⟨m, hm, hl⟩ := List.mem_filterMap.1 hp
  rw [decide_eq_true_eq] at hpn
  exact List.mem_filterMap.2 ⟨m, hm, by rw [requestSeq?_of_leaves? hl, hpn]⟩

/-- The messages from the adapter as they go on after these messages from the client and `before` them from the
adapter. -/
def replies (disk : Disk) (d : Direct) (requests before : List Json) : List Json → List Json
  | [] => []
  | m :: rest =>
    (Direct.pass disk .adapter m { d with pending := d.awaiting disk requests before }).1 ::
      replies disk d requests (before ++ [m]) rest

/-- The requests that are pending are those that wait, as far as a look at them tells. -/
def Tracks (disk : Disk) (d : Direct) (requests responses : List Json) (pending : List Pending) : Prop :=
  ∀ n, pending.find? (·.requestSeq = n) = (d.awaiting disk requests responses).find? (·.requestSeq = n)

/-- A request with a number of its own, which no response has answered, joins those that wait. -/
theorem Tracks.client (h : d.Tracks disk requests responses pending)
    (hnew : ∀ n, requestSeq? message = some n →
      n ∉ requests.filterMap requestSeq? ∧ n ∉ responses.filterMap answeredSeq?) :
    d.Tracks disk (requests ++ [message]) responses (d.afterRequest disk message pending) := by
  intro n
  have hn := h n
  rw [find?_awaiting] at hn ⊢
  rw [List.filterMap_append, List.find?_append, Direct.afterRequest]
  cases hl : d.leaves? disk message with
  | none => simpa [hl] using hn
  | some p =>
    obtain ⟨hreq, hresp⟩ := hnew p.requestSeq (requestSeq?_of_leaves? hl)
    simp only [List.filterMap_cons, hl, List.filterMap_nil, List.find?_cons, List.find?_nil, find?_without]
    by_cases hp : p.requestSeq = n
    · rw [hp] at hreq hresp
      simp [hp, hresp, find?_leaves?_eq_none hreq]
    · have hp' : n ≠ p.requestSeq := fun h => hp h.symm
      simpa [hp, hp'] using hn

/-- A response ends the wait for it. -/
theorem Tracks.adapter (h : d.Tracks disk requests responses pending) (message : Json) :
    d.Tracks disk requests (responses ++ [message]) (d.afterResponse message pending) := by
  intro n
  have hn := h n
  rw [find?_awaiting] at hn ⊢
  rw [List.filterMap_append, Direct.afterResponse]
  cases ha : answeredSeq? message with
  | none => simpa [ha] using hn
  | some k =>
    cases he : d.enabled with
    | false =>
      -- a session that is off redirects nothing
      have hleaves : requests.filterMap (d.leaves? disk) = [] := by simp [leaves?, he]
      simpa [hleaves] using hn
    | true =>
      simp only [if_true, find?_without, List.filterMap_cons, ha, List.filterMap_nil, List.mem_append,
        List.mem_singleton]
      by_cases hk : n = k
      · simp [hk]
      · simpa [hk] using hn

/-! ## Runs -/

/-- Messages still to come, after these requests and responses: no request has the number of one before it, or of a
response before it. -/
structure Coming (requests responses : List Json) (t : Transcript) : Prop where
  distinct : ((requests ++ t.from .client).filterMap requestSeq?).Nodup
  unanswered : ∀ n ∈ responses.filterMap answeredSeq?, n ∉ (t.from .client).filterMap requestSeq?
  answered : t.Pairwise fun earlier later =>
    earlier.1 = .adapter → later.1 = .client → ∀ n ∈ answeredSeq? earlier.2, requestSeq? later.2 ≠ some n

variable {t : Transcript}

/-- A request that comes has a number of its own, which no response has answered. -/
theorem Coming.client (h : Coming requests responses ((.client, message) :: t)) :
    (∀ n, requestSeq? message = some n →
      n ∉ requests.filterMap requestSeq? ∧ n ∉ responses.filterMap answeredSeq?) ∧
    Coming (requests ++ [message]) responses t := by
  obtain ⟨hdistinct, hdone, horder⟩ := h
  rw [Transcript.from_cons_self] at hdistinct hdone
  refine ⟨fun n hn => ⟨fun hmem => ?_, fun hmem => ?_⟩, ?_, fun n hn hmem => ?_, (List.pairwise_cons.1 horder).2⟩
  · rw [List.filterMap_append, List.filterMap_cons, hn] at hdistinct
    exact (List.nodup_append.1 hdistinct).2.2 n hmem n List.mem_cons_self rfl
  · exact hdone n hmem (List.mem_filterMap.2 ⟨message, List.mem_cons_self, hn⟩)
  · simpa using hdistinct
  · obtain ⟨m, hm, hmn⟩ := List.mem_filterMap.1 hmem
    exact hdone n hn (List.mem_filterMap.2 ⟨m, List.mem_cons_of_mem _ hm, hmn⟩)

/-- What a response answers is no request that is still to come. -/
theorem Coming.adapter (h : Coming requests responses ((.adapter, message) :: t)) :
    (∀ n, answeredSeq? message = some n → n ∉ (t.from .client).filterMap requestSeq?) ∧
    Coming requests (responses ++ [message]) t := by
  obtain ⟨hdistinct, hdone, horder⟩ := h
  obtain ⟨hfirst, hordered⟩ := List.pairwise_cons.1 horder
  rw [Transcript.from_cons_of_ne (by decide)] at hdistinct hdone
  have hlater : ∀ n, answeredSeq? message = some n → n ∉ (t.from .client).filterMap requestSeq? := by
    intro n hn hmem
    obtain ⟨m, hm, hmn⟩ := List.mem_filterMap.1 hmem
    obtain ⟨m', hm', rfl⟩ := List.mem_map.1 hm
    obtain ⟨hm', hside⟩ := List.mem_filter.1 hm'
    exact hfirst m' hm' rfl (by simpa using hside) n hn hmn
  refine ⟨hlater, hdistinct, fun n hn => ?_, hordered⟩
  obtain ⟨m, hm, hmn⟩ := List.mem_filterMap.1 hn
  rcases List.mem_append.1 hm with hm | hm
  · exact hdone n (List.mem_filterMap.2 ⟨m, hm, hmn⟩)
  · rw [List.mem_singleton.1 hm] at hmn
    exact hlater n hmn

/-- The messages from the adapter go on in a run as they do by themselves, after the requests of the whole run. -/
theorem run_replies (t : Transcript) :
    ∀ {pending : List Pending} {requests responses : List Json}, d.Tracks disk requests responses pending →
      Coming requests responses t →
      Transcript.from .adapter (Direct.run (t.on disk) { d with pending }).1 =
        d.replies disk (requests ++ t.from .client) responses (t.from .adapter) := by
  induction t with
  | nil =>
    intro pending requests responses _ _
    rfl
  | cons m t ih =>
    obtain ⟨side, message⟩ := m
    intro pending requests responses htracks hcoming
    rw [run_on_cons]
    cases side with
    | client =>
      obtain ⟨hnew, hrest⟩ := hcoming.client
      have hne : Side.client ≠ .adapter := by decide
      rw [pass_client, Transcript.from_cons_of_ne hne, Transcript.from_cons_of_ne hne, Transcript.from_cons_self,
        ih (htracks.client hnew) hrest, List.append_assoc, List.singleton_append]
    | adapter =>
      obtain ⟨hlater, hrest⟩ := hcoming.adapter
      -- the requests still to come are not the one that is answered
      have hsame : ∀ n, answeredSeq? message = some n → pending.find? (·.requestSeq = n) =
          (d.awaiting disk (requests ++ Transcript.from .client t) responses).find? (·.requestSeq = n) := by
        intro n hn
        rw [htracks n, find?_awaiting, find?_awaiting, List.filterMap_append, List.find?_append,
          find?_leaves?_eq_none (hlater n hn), Option.or_none]
      have hne : Side.adapter ≠ .client := by decide
      rw [pass_adapter, Transcript.from_cons_self, Transcript.from_cons_self, Transcript.from_cons_of_ne hne,
        ih (htracks.adapter message) hrest, replies, pass_adapter_congr hsame]

/-- Every message from the adapter in an orderly run goes on as it does by itself, after all requests of the run and
the responses before it. -/
theorem run_orderly (disk : Disk) (h : t.Orderly) (hd : d.pending = []) :
    Transcript.from .adapter (d.run (t.on disk)).1 = d.replies disk (t.from .client) [] (t.from .adapter) := by
  have hempty : { d with pending := [] } = d := by
    rw [← hd]
  have htracks : d.Tracks disk [] [] [] := fun n => rfl
  have hcoming : Coming [] [] t := ⟨h.distinct, fun _ hn => (by cases hn), h.answered⟩
  have hrun := run_replies t htracks hcoming
  rw [hempty] at hrun
  exact hrun

end Direct

namespace Session

variable {disk : Disk}

/-- Two orders of the same messages, met on a disk that stays as it is, give every message the same, whatever the
durations, the bounds and the clocks, when nothing is trusted unchecked or no response names a compiled source too long
for the file system. -/
theorem outputs_interleaved (settings : DebugSettings) (env : Environment) (roots : List Path) (xs ys : Transcript)
    (hsides : ∀ side, xs.from side = ys.from side) (hx : xs.Orderly) (hy : ys.Orderly)
    (hshort : settings.compiledCacheDebounceMs = 0 ∨ ∀ m ∈ xs.from .adapter, ShortSources m) (clock clock' : Clock)
    (side : Side) :
    Transcript.from side (run (xs.on disk) (new settings env roots) clock).1.1 =
      Transcript.from side (run (ys.on disk) (new settings env roots) clock').1.1 := by
  have hm := mirrors_new {disk} disk settings env roots
  cases side with
  | client =>
    have houts : ∀ t : Transcript, Always (run (t.on disk) (new settings env roots)) fun r =>
        r.1.from .client = (t.from .client).map fun m => (Direct.pass disk .client m (.new settings env roots)).1 :=
      fun t => client_outputs t hm
    rw [houts xs clock, houts ys clock', hsides]
  | adapter =>
    have hdirect : ∀ t : Transcript, t.from .adapter = xs.from .adapter →
        Always (run (t.on disk) (new settings env roots)) fun r =>
          r.1 = (Direct.run (t.on disk) (.new settings env roots)).1 := by
      intro t ht
      refine run_on t ?_ (fun _ hp => by cases hp) hm
      rw [ht]
      exact hshort.imp_left fun h0 => by simp [h0, nanosOfMillis]
    have hpending : (Direct.new settings env roots).pending = [] := rfl
    rw [hdirect xs rfl clock, hdirect ys (hsides .adapter).symm clock', Direct.run_orderly disk hx hpending,
      Direct.run_orderly disk hy hpending, hsides, hsides]

namespace Sample

/-- Two compiled sources, the second of which holds markers of both templates. -/
def twoSources : Disk :=
  workDisk [("a_jsp.java", source 1 "// line 1 \"/a.jsp\"\n"),
    ("b_jsp.java", source 2 "// line 1 \"/a.jsp\"\n// line 1 \"/b.jsp\"\n")]

def requestA : Json := request 1 "/ws/a.jsp" [1]

def requestB : Json := request 2 "/ws/b.jsp" [1]

end Sample

theorem shortSources_sample : ShortSources (Sample.response 1 [Sample.reported 1 "/work/b_jsp.java"]) := by
  intro requestSeq success hroute breakpoints hitems b hb text htext hcompiled
  cases (rfl : bodyItems "breakpoints" (Sample.response 1 [Sample.reported 1 "/work/b_jsp.java"]) =
    .ok [Sample.reported 1 "/work/b_jsp.java"]).symm.trans hitems
  cases List.mem_singleton.1 hb
  cases (rfl : Dap.sourcePath? (Sample.reported 1 "/work/b_jsp.java") = some "/work/b_jsp.java").symm.trans htext
  decide +kernel

/-- The response to one request may come before or after another request. -/
theorem outputs_interleaved_twoSources :
    Transcript.from .adapter (run (Transcript.on Sample.twoSources [(.client, Sample.requestA),
        (.adapter, Sample.response 1 [Sample.reported 1 "/work/b_jsp.java"]), (.client, Sample.requestB)])
        (Sample.session 3600000) (Stream'.const 0)).1.1 =
      Transcript.from .adapter (run (Transcript.on Sample.twoSources [(.client, Sample.requestA),
        (.client, Sample.requestB), (.adapter, Sample.response 1 [Sample.reported 1 "/work/b_jsp.java"])])
        (Sample.session 3600000) (Stream'.const 7)).1.1 :=
  outputs_interleaved (Sample.settings 3600000) ⟨[]⟩ [⟨"/ws"⟩]
    [(.client, Sample.requestA), (.adapter, Sample.response 1 [Sample.reported 1 "/work/b_jsp.java"]),
      (.client, Sample.requestB)]
    [(.client, Sample.requestA), (.client, Sample.requestB),
      (.adapter, Sample.response 1 [Sample.reported 1 "/work/b_jsp.java"])]
    (by rintro (_ | _) <;> rfl) ⟨by decide +kernel, by decide +kernel⟩ ⟨by decide +kernel, by decide +kernel⟩
    (.inr (by rintro _ (_ | ⟨_, ⟨⟩⟩); exact shortSources_sample)) (Stream'.const 0) (Stream'.const 7) .adapter

/-! ### A source too long to look up

A response may name a compiled source by a path that the file system refuses for its length. While an entry for the
same path in another spelling is trusted, the markers are found all the same.
-/

variable {s : Session} {clock : Clock} {p : Pending} {c : Caches} {b response : Json} {line : Nat} {requestSeq : Int}

/-- What becomes of a response that reports one breakpoint. -/
theorem pass_one (hon : s.settings.enabled = true) (hroute : adapterRoute response = .mapBack requestSeq true)
    (hp : s.pending.find? (·.requestSeq = requestSeq) = some p)
    (hitems : bodyItems "breakpoints" response = .ok [b]) :
    (Relay.pass disk.tickingHost .adapter response s clock).1.1 =
      setBodyItems "breakpoints" [((mapBack disk.tickingHost p b s.caches clock).1.1).getD b] response := by
  have hr : Direct.route .adapter response = .mapBack requestSeq true := hroute
  rw [pass_eq, hon, hr]
  simp only [if_true, follow, answerRequest, hp]
  unfold answer
  rw [hitems]
  simp only [mapAllBack, bind, StateT.bind]
  obtain ⟨⟨mapped, c⟩, clock'⟩ := mapBack disk.tickingHost p b s.caches clock
  obtain ⟨markers, resolver, locator, roots, verbose⟩ := c
  cases verbose <;> rfl

theorem mapBack_of_unreadable {e : FileError} (h : c.markers.entries.find? (reportedSource p b).components = none)
    (hs : disk.stat (reportedSource p b) = .error e) :
    Always (mapBack disk.tickingHost p b c) fun r => r.1 = none := by
  unfold mapBack
  cases Dap.lineOf? b "line" with
  | none => exact .of_pure rfl
  | some line =>
    have hread : Always (c.readCached disk.tickingHost (reportedSource p b)) fun r => r.1 = none :=
      (MarkerCache.readCached_of_unreadable h hs).andThen fun _ hr => .of_pure hr
    refine hread.andThen ?_
    rintro ⟨_, c'⟩ rfl
    exact .of_pure rfl

/-- The template that a reference stands for does not depend on the markers that are kept. -/
theorem templateFor_markers (p : Pending) (ref : String) (c : Caches) (markers : MarkerCache) (clock : Clock) :
    (templateFor disk.tickingHost p ref { c with markers } clock).1.1 =
      (templateFor disk.tickingHost p ref c clock).1.1 := by
  unfold templateFor Caches.resolve
  simp only [bind, StateT.bind]
  obtain ⟨⟨found, resolver⟩, clock'⟩ := c.resolver.resolve disk.tickingHost ref clock
  cases found <;> rfl

theorem mapBack_of_trusted {e : MarkerCache.Entry} {templateLine : Nat} {ref : String}
    (hl : Dap.lineOf? b "line" = some line) (h : c.markers.trusted? clock.head (reportedSource p b) = some e)
    (hm : Marker.locationOf? e.markers line = some ⟨templateLine, some ref⟩) :
    (mapBack disk.tickingHost p b c clock).1.1 =
      (templateFor disk.tickingHost p ref c clock.tail).1.1.map fun t =>
        Dap.setSource t (Dap.setLine templateLine b) := by
  have hread : c.readCached disk.tickingHost (reportedSource p b) clock =
      ((some e.markers, { c with markers := c.markers.keep (reportedSource p b) e }), clock.tail) := by
    unfold Caches.readCached
    simp only [bind, StateT.bind, MarkerCache.readCached_of_trusted h]
    rfl
  unfold mapBack
  rw [hl]
  simp only [bind, StateT.bind, hread, Option.bind_some, hm]
  rw [← templateFor_markers p ref c (c.markers.keep (reportedSource p b) e)]
  rfl

/-- When the answers to a response differ before and after another request, the order of the two matters. -/
theorem outputs_ne {first second : Json}
    (hearly : (Relay.pass disk.tickingHost .adapter response (run (Transcript.on disk [(.client, first)]) s clock).1.2
      (run (Transcript.on disk [(.client, first)]) s clock).2).1.1 = response)
    (hlate : (Relay.pass disk.tickingHost .adapter response
      (run (Transcript.on disk [(.client, first), (.client, second)]) s clock).1.2
      (run (Transcript.on disk [(.client, first), (.client, second)]) s clock).2).1.1 ≠ response) :
    Transcript.from .adapter
        (run (Transcript.on disk [(.client, first), (.adapter, response), (.client, second)]) s clock).1.1 ≠
      Transcript.from .adapter
        (run (Transcript.on disk [(.client, first), (.client, second), (.adapter, response)]) s clock).1.1 := by
  intro hsame
  refine hlate (Eq.trans ?_ hearly)
  exact (List.cons.inj (show [_] = [_] from hsame)).1.symm

namespace Sample

def pendingA : Pending := ⟨1, ⟨"/ws/a.jsp"⟩, ⟨"/work/a_jsp.java"⟩, ["a.jsp", "/a.jsp"]⟩

def longSource : String := Path.slashes 4095 ++ "/work/b_jsp.java"

/-- A response to the first request that names the second compiled source, at length. -/
def longResponse : Json := Sample.response 1 [reported 1 longSource]

theorem reportedSource_long : reportedSource pendingA (reported 1 longSource) = ⟨longSource⟩ := by
  have hs : Dap.sourcePath? (reported 1 longSource) = some longSource := rfl
  have hc : Source.isCompiled longSource = true := Source.isCompiled_append _ (by decide +kernel)
  simp [reportedSource, hs, Option.filter, hc]

theorem components_longSource : (Path.mk longSource).components = (Path.mk "/work/b_jsp.java").components :=
  Path.components_slashes 4095 (by decide +kernel)

theorem stat_longSource : ∃ e, twoSources.stat ⟨longSource⟩ = .error e := by
  refine Disk.stat_tooLong ?_
  simp only [longSource, String.utf8ByteSize_append, Path.utf8ByteSize_slashes]
  decide +kernel

/-- While the second source has no entry, the response goes on as it came. -/
theorem pass_long_unread (hon : s.settings.enabled = true)
    (hp : s.pending.find? (·.requestSeq = 1) = some pendingA)
    (hkey : s.caches.markers.contains ⟨"/work/b_jsp.java"⟩ = false) :
    (Relay.pass twoSources.tickingHost .adapter longResponse s clock).1.1 = longResponse := by
  obtain ⟨e, he⟩ := stat_longSource
  have hnone : s.caches.markers.entries.find? (Path.mk longSource).components = none := by
    rw [components_longSource]
    simpa [MarkerCache.contains, Recency.contains] using hkey
  rw [← reportedSource_long] at hnone he
  rw [pass_one hon (by decide +kernel) hp rfl, mapBack_of_unreadable hnone he clock]
  rfl

/-- While its entry is trusted, the response is mapped back. -/
theorem pass_long_trusted (hon : s.settings.enabled = true)
    (hp : s.pending.find? (·.requestSeq = 1) = some pendingA)
    (hkey : (s.caches.markers.trusted? clock.head ⟨"/work/b_jsp.java"⟩).map (·.markers) =
      some #[⟨1, 1, some "/a.jsp"⟩, ⟨2, 1, some "/b.jsp"⟩])
    (hfor : (templateFor twoSources.tickingHost pendingA "/a.jsp" s.caches clock.tail).1.1 = some ⟨"/ws/a.jsp"⟩) :
    (Relay.pass twoSources.tickingHost .adapter longResponse s clock).1.1 ≠ longResponse := by
  obtain ⟨e, he, hm⟩ := Option.map_eq_some_iff.1 hkey
  have htrusted : s.caches.markers.trusted? clock.head (reportedSource pendingA (reported 1 longSource)) = some e := by
    rw [← he, reportedSource_long, MarkerCache.trusted?, components_longSource]
    rfl
  have hplace : Marker.locationOf? e.markers 1 = some ⟨1, some "/a.jsp"⟩ := by
    rw [hm]
    decide +kernel
  rw [pass_one hon (by decide +kernel) hp rfl, mapBack_of_trusted rfl htrusted hplace, hfor]
  intro h
  have hitem : Dap.setSource ⟨"/ws/a.jsp"⟩ (Dap.setLine 1 (reported 1 longSource)) = reported 1 longSource := by
    have hitems := congrArg (bodyItems "breakpoints") h
    exact (List.cons.inj (Except.ok.inj hitems)).1
  have hpath : "/ws/a.jsp" = longSource := Option.some.inj (congrArg Dap.sourcePath? hitem)
  have hsize := congrArg String.utf8ByteSize hpath
  rw [longSource, String.utf8ByteSize_append, Path.utf8ByteSize_slashes] at hsize
  exact absurd hsize (by decide +kernel)

end Sample

/-- Without a bound on the paths that responses name, the order of messages can matter: a path too long for the file
system is mapped through markers that are still trusted, and not otherwise. -/
theorem outputs_depend_on_order :
    ¬ ∀ (settings : DebugSettings) (env : Environment) (roots : List Path) (disk : Disk) (xs ys : Transcript),
      settings.enabled = true → (∀ side, xs.from side = ys.from side) → xs.Orderly → ys.Orderly →
      ∀ (clock clock' : Clock) (side : Side),
        Transcript.from side (run (xs.on disk) (new settings env roots) clock).1.1 =
          Transcript.from side (run (ys.on disk) (new settings env roots) clock').1.1 := by
  intro hall
  refine outputs_ne ?_ ?_
    (hall (Sample.settings 3600000) ⟨[]⟩ [⟨"/ws"⟩] Sample.twoSources
      [(.client, Sample.requestA), (.adapter, Sample.longResponse), (.client, Sample.requestB)]
      [(.client, Sample.requestA), (.client, Sample.requestB), (.adapter, Sample.longResponse)]
      rfl (by rintro (_ | _) <;> rfl) ⟨by decide +kernel, by decide +kernel⟩ ⟨by decide +kernel, by decide +kernel⟩
      (Stream'.const 0) (Stream'.const 0) .adapter)
  · exact Sample.pass_long_unread (by decide +kernel) (by decide +kernel) (by decide +kernel)
  · exact Sample.pass_long_trusted (by decide +kernel) (by decide +kernel) (by decide +kernel) (by decide +kernel)

end Session

end TemplateDebug
