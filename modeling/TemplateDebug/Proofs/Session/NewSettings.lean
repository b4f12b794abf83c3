import TemplateDebug.Proofs.Session.History
import TemplateDebug.Proofs.Session.Transparency
/-!
# New settings

New settings keep the markers of compiled sources and the pending requests, and nothing else. Markers that are kept are
those of versions of their files, and a request or a stack trace asks only for markers that are checked. So where
fingerprints tell versions apart, these go on from then on as in a session that has just begun with the new settings.
-/

namespace TemplateDebug.Session

open Relay (Side)

variable {machine : Host (StateM Clock)} {roots : List Path} {c : Caches} {s : Session}

/-! ## The workspace

Whatever a machine answers, a session stays in its workspace.
-/

/-- The caches are in the workspace, and may answer anything. -/
def View.workspace (roots : List Path) : View where
  caches c := c.workspaceRoots = roots
  fresh _ _ := True
  cached _ _ := True
  finds _ _ := True
  locates _ _ := True

theorem View.workspace_on (machine : Host (StateM Clock)) (roots : List Path) : (View.workspace roots).On machine where
  fresh h _ := .any fun _ => .of_pure ⟨trivial, h⟩
  cached h _ := .any fun _ => .of_pure ⟨trivial, h⟩
  resolve h _ := .any fun _ => .of_pure ⟨trivial, h⟩
  locate h _ := .any fun _ => .of_pure ⟨trivial, h⟩

theorem follow_workspace (h : s.caches.workspaceRoots = roots) (message : Json) (route : Route) :
    Always (s.follow machine message route) fun r => r.2.caches.workspaceRoots = roots := by
  have hv : (View.workspace roots).On machine := View.workspace_on machine roots
  cases route with
  | pass => exact .of_pure h
  | redirect =>
    unfold follow redirectRequest
    dsimp only
    split
    · exact .any fun _ => .of_pure h
    · refine (redirect_view hv h _ _ _).andThen ?_
      rintro ⟨redirected, c⟩ ⟨-, h'⟩
      cases redirected <;> exact .of_pure h'
  | mapBack requestSeq success =>
    unfold follow answerRequest
    dsimp only
    split
    · exact .of_pure h
    · cases success with
      | false => exact .of_pure h
      | true => exact (answer_view hv h _ _).andThen fun _ h' => .any fun _ => .of_pure h'.2
  | showTrace => exact (showTrace_view hv.toShows h _).andThen fun _ h' => .any fun _ => .of_pure h'.2

theorem pass_workspace (h : s.caches.workspaceRoots = roots) (side : Side) (message : Json) :
    Always (Relay.pass machine side message s) fun r => r.2.caches.workspaceRoots = roots := by
  rw [pass_eq]
  split
  · exact follow_workspace h message _
  · exact .of_pure h

/-! ## Runs -/

variable {past : Set Disk} {disk : Disk} {times : Times} {d : Direct} {t : Transcript}

/-- After any run, the markers that are kept are those of versions of their files, and the workspace is as it was. -/
theorem run_keeps (events : List (Disk × Event)) :
    ∀ {s : Session}, (∀ e ∈ events, e.1 ∈ past) → s.caches.Meet (.versions past) → s.caches.workspaceRoots = roots →
      Always (run events s) fun r => r.2.caches.Meet (.versions past) ∧ r.2.caches.workspaceRoots = roots := by
  induction events with
  | nil => exact fun _ hv hw => .of_pure ⟨hv, hw⟩
  | cons e events ih =>
    intro s hpast hv hw
    obtain ⟨disk, e⟩ := e
    have hrest : ∀ e ∈ events, e.1 ∈ past := fun e he => hpast e (List.mem_cons_of_mem _ he)
    cases e with
    | settings settings env =>
      exact ih hrest ⟨hv.markers.updateOptions _, trivial, Compiled.Locator.located_new _ _⟩ hw
    | message side message =>
      have hon := Knowledge.on_versions (hpast _ List.mem_cons_self)
      have hpass : Always (Relay.pass disk.tickingHost side message s) fun r =>
          r.2.caches.Meet (.versions past) ∧ r.2.caches.workspaceRoots = roots := fun clock =>
        ⟨(pass_outcome hv hon side message clock).2.2, pass_workspace hw side message clock⟩
      refine hpass.andThen ?_
      rintro ⟨out, s'⟩ ⟨hv', hw'⟩
      exact (ih hrest hv' hw').andThen fun _ h => .of_pure h

/-- Requests and stack traces are not mapped back by what is pending. -/
theorem route_ne_mapBack {side : Side} {message : Json} (h : side = .client ∨ adapterRoute message = .showTrace)
    (n : Int) (success : Bool) : Direct.route side message ≠ .mapBack n success := by
  intro hroute
  cases side with
  | client => rcases clientRoute_cases message with hc | hc <;> cases hc.symm.trans hroute
  | adapter =>
    rcases h with h | h
    · cases h
    · cases h.symm.trans hroute

/-- What is pending makes no difference to a message that is no response to a request that sets breakpoints. -/
theorem pass_pending (d : Direct) (pending : List Pending) {side : Side} {message : Json}
    (hroute : ∀ n success, Direct.route side message ≠ .mapBack n success) :
    (Direct.pass disk side message { d with pending }).1 = (d.pass disk side message).1 := by
  cases side with
  | client => rw [Direct.pass_client]
  | adapter =>
    refine Direct.pass_adapter_congr (d := d) fun n hn => ?_
    unfold answeredSeq? at hn
    split at hn
    · rename_i h
      exact absurd h (hroute _ _)
    · cases hn

/-- On a disk that stays as it is, such a message goes on in a run as it goes on by itself, without caches. -/
theorem output_of_route (hd : disk ∈ past) (ht : Disk.TellsVersions past) (t : Transcript) :
    ∀ {pending : List Pending} {s : Session}, s.Mirrors past disk times { d with pending } →
      Always (run (t.on disk) s) fun r => ∀ (i : Nat) (side : Side) (message : Json), t[i]? = some (side, message) →
        (∀ n success, Direct.route side message ≠ .mapBack n success) →
        r.1[i]? = some (side, (d.pass disk side message).1) := by
  induction t with
  | nil =>
    intro _ _ _
    exact .of_pure fun i side message h => by cases h
  | cons m t ih =>
    intro pending s h
    obtain ⟨side, message⟩ := m
    have hnext : ∃ pending', (Direct.pass disk side message { d with pending }).2 = { d with pending := pending' } := by
      cases side with
      | client => exact ⟨_, congrArg Prod.snd (Direct.pass_client disk d pending message)⟩
      | adapter => exact ⟨_, Direct.pass_adapter disk d pending message⟩
    refine (pass_direct h hd ht side message).andThen ?_
    rintro ⟨out, s'⟩ ⟨hout, hs'⟩
    obtain ⟨pending', hpending⟩ := hnext
    rw [hpending] at hs'
    refine (ih hs').andThen ?_
    rintro ⟨outs, s''⟩ houts
    refine .of_pure ?_
    intro i side' message' hi hroute
    cases i with
    | succ i => exact houts i side' message' hi hroute
    | zero =>
      cases hi
      -- nothing that such a message needs is read unchecked
      have hprompt : side = .adapter → Prompt past disk times pending message := by
        rintro rfl n success hn
        exact absurd hn (hroute n success)
      have hsame : out = (d.pass disk side message).1 := (hout hprompt).trans (pass_pending d pending hroute)
      rw [List.getElem?_cons_zero, hsame]

/-- New settings leave of the caches only markers of versions of files, and what is pending. -/
theorem mirrors_updated (hv : s.caches.Meet (.versions past)) (hw : s.caches.workspaceRoots = roots) (disk : Disk)
    (settings : DebugSettings) (env : Environment) :
    (s.updateSettings settings env).Mirrors past disk
      ⟨nanosOfMillis settings.compiledCacheDebounceMs, nanosOfMillis settings.resolvedPathTtlMs,
        nanosOfMillis settings.discoveryTtlMs⟩ { Direct.new settings env roots with pending := s.pending } where
  faithful := {
    site_eq := by rw [← hw]; rfl
    times_eq := rfl
    known := hv.markers.updateOptions _
    resolver := Template.Resolver.current_new disk _ _
    locator := Compiled.Locator.current_new disk _ _ _ }
  direct_eq := by rw [← hw]; rfl

/-- After any run, new settings keep what is pending and at most so many markers as they allow; and if fingerprints tell
versions apart, from then on, on a disk that stays as it is, each message goes on as in a session that begins with the
new settings, but for the responses to requests that set breakpoints. -/
theorem outputs_updated (old settings : DebugSettings) (oldEnv env : Environment) (roots : List Path)
    (events : List (Disk × Event)) (hpast : ∀ e ∈ events, e.1 ∈ past) (hdisk : disk ∈ past)
    (clock clock' clock'' : Clock) :
    let s := (run events (new old oldEnv roots) clock).1.2
    (s.updateSettings settings env).pending = s.pending ∧
      (s.updateSettings settings env).caches.markers.size ≤ max 1 settings.compiledCacheMaxEntries ∧
      (Disk.TellsVersions past → ∀ (t : Transcript) (i : Nat) (side : Side) (message : Json),
        t[i]? = some (side, message) → (∀ n success, Direct.route side message ≠ .mapBack n success) →
        ∃ out, (run (t.on disk) (s.updateSettings settings env) clock').1.1[i]? = some (side, out) ∧
          (run (t.on disk) (new settings env roots) clock'').1.1[i]? = some (side, out)) := by
  intro s
  have hfresh : (new old oldEnv roots).caches.Meet (.versions past) :=
    ⟨MarkerCache.known_new past _, trivial, Compiled.Locator.located_new _ _⟩
  obtain ⟨hv, hw⟩ := run_keeps events hpast hfresh rfl clock
  refine ⟨rfl, List.length_take_le _ _, fun htells t i side message hi hroute => ?_⟩
  have hupdated := output_of_route hdisk htells t (mirrors_updated hv hw disk settings env) clock'
  have hnew := output_of_route hdisk htells t
    (d := Direct.new settings env roots) (mirrors_new past disk settings env roots) clock''
  exact ⟨_, hupdated i side message hi hroute, hnew i side message hi hroute⟩

namespace Sample

/-- The disk after the compiled source is compiled again. -/
def again : Disk := workDisk [("a_jsp.java", source 2 "\n// line 1 \"/a.jsp\"\n")]

/-- Markers stay trusted for an hour, but only those of one compiled source are kept. -/
def keepOne : DebugSettings := { settings 3600000 with compiledCacheMaxEntries := 1 }

/-- The session that has redirected a request before it takes these settings. -/
def updated : Session :=
  (run (deliver (recompiled.take 1)) (session 3600000) (Stream'.const 0)).1.2.updateSettings keepOne ⟨[]⟩

end Sample

/-- The compiled source is compiled again before the new settings: the next request finds its new version, one line
further down. -/
theorem outputs_updated_recompiled :
    ∃ out, (run (Transcript.on Sample.again [(.client, Sample.request 2 "/ws/a.jsp" [1])]) Sample.updated
        (Stream'.const 7)).1.1[0]? = some (.client, out) ∧
      (out.get? "arguments").bind (fun a => a.get? "breakpoints") = some (.arr [.obj [("line", .int 3)]]) := by
  have hagain : Sample.again ∈ {disk | ∃ m ∈ recompiled, m.1 = disk} :=
    ⟨_, List.mem_cons_of_mem _ List.mem_cons_self, rfl⟩
  have hevents : ∀ e ∈ deliver (recompiled.take 1), e.1 ∈ {disk | ∃ m ∈ recompiled, m.1 = disk} := by
    rintro _ (_ | ⟨_, ⟨⟩⟩)
    exact ⟨_, List.mem_cons_self, rfl⟩
  obtain ⟨-, -, hsame⟩ := outputs_updated (Sample.settings 3600000) Sample.keepOne ⟨[]⟩ ⟨[]⟩ [⟨"/ws"⟩]
    (deliver (recompiled.take 1)) hevents hagain (Stream'.const 0) (Stream'.const 7) (Stream'.const 0)
  obtain ⟨out, hout, hnew⟩ := hsame tellsVersions_recompiled [(.client, Sample.request 2 "/ws/a.jsp" [1])] 0 .client _
    rfl (route_ne_mapBack (.inl rfl))
  have hline : (run (Transcript.on Sample.again [(.client, Sample.request 2 "/ws/a.jsp" [1])])
      (new Sample.keepOne ⟨[]⟩ [⟨"/ws"⟩]) (Stream'.const 0)).1.1[0]?.map
        (fun m => (m.2.get? "arguments").bind fun a => a.get? "breakpoints") =
      some (some (.arr [.obj [("line", .int 3)]])) := by decide +kernel
  rw [hnew] at hline
  exact ⟨out, hout, Option.some.inj hline⟩

/-- Markers that were kept are still given when their file may no longer be read, where a session that begins with the
new settings finds none, though different bytes come with different fingerprints. -/
theorem outputs_updated_not_always_fresh :
    ¬ ∀ (old settings : DebugSettings) (oldEnv env : Environment) (roots : List Path) (past : Set Disk) (disk : Disk)
      (events : List (Disk × Event)) (clock clock' clock'' : Clock) (t : Transcript) (i : Nat) (side : Side)
      (message : Json), Disk.TellsContents past → (∀ e ∈ events, e.1 ∈ past) → disk ∈ past →
      t[i]? = some (side, message) → (∀ n success, Direct.route side message ≠ .mapBack n success) →
      (run (t.on disk) ((run events (new old oldEnv roots) clock).1.2.updateSettings settings env) clock').1.1[i]? =
        (run (t.on disk) (new settings env roots) clock'').1.1[i]? := by
  intro h
  have hpast : ∀ e ∈ deliver (refusedLater.take 1), e.1 ∈ {disk | ∃ m ∈ refusedLater, m.1 = disk} := by
    rintro _ (_ | ⟨_, ⟨⟩⟩)
    exact ⟨_, List.mem_cons_self, rfl⟩
  have hsame := h (Sample.settings 0) Sample.keepOne ⟨[]⟩ ⟨[]⟩ [⟨"/ws"⟩] _ Sample.refused
    (deliver (refusedLater.take 1)) (Stream'.const 0) (Stream'.const 0) (Stream'.const 0)
    [(.client, Sample.request 2 "/ws/a.jsp" [1])] 0 .client _ tellsContents_refusedLater hpast
    ⟨_, List.mem_cons_of_mem _ List.mem_cons_self, rfl⟩ rfl (route_ne_mapBack (.inl rfl))
  exact absurd hsame (by decide +kernel)

end TemplateDebug.Session
