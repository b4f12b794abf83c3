import TemplateDebug.Proofs.Session.Simulation
import TemplateDebug.Proofs.Source.Kind
/-!
# Runs of a session

A session meets messages from both sides and new settings, each on the disk as it is at that moment. A run gives the
messages as they went on and the session after it. A run over a changing disk that trusts nothing, and a run over a disk
that stays as it is, are those of the session without caches.
-/

namespace TemplateDebug

open Relay (Side)

namespace Session

/-- What a session meets. -/
inductive Event where
  | message (side : Side) (message : Json)
  | settings (settings : DebugSettings) (env : Environment)

/-- Messages, each with the side it came from. -/
abbrev Transcript := List (Side × Json)

/-- The messages of a run as they went on, and the session after it. -/
def run : List (Disk × Event) → Session → StateM Clock (Transcript × Session)
  | [], s => pure ([], s)
  | (disk, .message side message) :: rest, s => do
    let (out, s) ← Relay.pass disk.tickingHost side message s
    let (outs, s) ← run rest s
    pure ((side, out) :: outs, s)
  | (_, .settings settings env) :: rest, s => run rest (s.updateSettings settings env)

end Session

/-- The messages of a run without caches, and the session after it. -/
def Direct.run : List (Disk × Session.Event) → Direct → Session.Transcript × Direct
  | [], d => ([], d)
  | (disk, .message side message) :: rest, d =>
    let passed := d.pass disk side message
    let after := run rest passed.2
    ((side, passed.1) :: after.1, after.2)
  | (_, .settings settings env) :: rest, d => run rest (d.updateSettings settings env)

namespace Session

/-- Messages, each met on a disk of its own. -/
def deliver (deliveries : List (Disk × Side × Json)) : List (Disk × Event) :=
  deliveries.map fun m => (m.1, .message m.2.1 m.2.2)

/-- Messages met on a disk that stays as it is. -/
def Transcript.on (disk : Disk) (t : Transcript) : List (Disk × Event) := deliver (t.map (disk, ·))

/-- The messages of one side, in order. -/
def Transcript.from (side : Side) (t : Transcript) : List Json := (t.filter fun m => m.1 = side).map (·.2)

@[simp] theorem Transcript.from_cons_self (side : Side) (message : Json) (t : Transcript) :
    Transcript.from side ((side, message) :: t) = message :: t.from side := by
  simp [Transcript.from]

@[simp] theorem Transcript.from_cons_of_ne {side side' : Side} (h : side' ≠ side) (message : Json) (t : Transcript) :
    Transcript.from side ((side', message) :: t) = t.from side := by
  simp [Transcript.from, h]

theorem run_on_cons (disk : Disk) (side : Side) (message : Json) (t : Transcript) (d : Direct) :
    Direct.run (Transcript.on disk ((side, message) :: t)) d =
      ((side, (d.pass disk side message).1) :: (Direct.run (t.on disk) (d.pass disk side message).2).1,
        (Direct.run (t.on disk) (d.pass disk side message).2).2) := rfl

variable {past : Set Disk} {disk : Disk} {times : Times} {d : Direct} {s : Session}

/-! ## A changing disk -/

/-- With nothing trusted, each message of a run goes on as without caches, on whatever disk it is met. -/
theorem run_untrusted (ht : Disk.TellsVersions past) (deliveries : List (Disk × Side × Json)) :
    ∀ {disk : Disk} {d : Direct} {s : Session}, (∀ m ∈ deliveries, m.1 ∈ past) →
      s.Mirrors past disk ⟨0, 0, 0⟩ d →
      Always (run (deliver deliveries) s) fun r => r.1 = (Direct.run (deliver deliveries) d).1 := by
  induction deliveries with
  | nil => exact fun _ _ => .of_pure rfl
  | cons m deliveries ih =>
    intro disk d s hpast h
    obtain ⟨disk', side, message⟩ := m
    -- memos that are trusted for no time say nothing that the next disk could belie
    have h' : s.Mirrors past disk' ⟨0, 0, 0⟩ d := ⟨h.faithful.change rfl rfl disk', h.direct_eq⟩
    refine (pass_direct h' (hpast _ List.mem_cons_self) ht side message).andThen ?_
    rintro ⟨out, s'⟩ ⟨hout, hs'⟩
    refine (ih (fun m hm => hpast m (List.mem_cons_of_mem _ hm)) hs').andThen ?_
    rintro ⟨outs, s''⟩ houts
    refine .of_pure ?_
    have hsame : out = (d.pass disk' side message).1 := hout fun _ => prompt_untrusted rfl
    simp only at houts
    simp only [deliver, List.map_cons, Direct.run, hsame]
    rw [houts]
    rfl

/-! ## A disk that stays as it is -/

/-- No breakpoint of a response names its compiled source by a path that is too long for the file system. -/
def ShortSources (message : Json) : Prop :=
  ∀ requestSeq success, adapterRoute message = .mapBack requestSeq success →
    ∀ breakpoints, bodyItems "breakpoints" message = .ok breakpoints → ∀ b ∈ breakpoints,
      ∀ text, Dap.sourcePath? b = some text → Source.isCompiled text = true → text.utf8ByteSize ≤ 4095

/-- Every pending request went to a path that can name a file. -/
def Located (pending : List Pending) : Prop := ∀ p ∈ pending, p.compiled.NamesFile

theorem namesFile_reportedSource {p : Pending} (hp : p.compiled.NamesFile) {b : Json}
    (hb : ∀ text, Dap.sourcePath? b = some text → Source.isCompiled text = true → text.utf8ByteSize ≤ 4095) :
    (reportedSource p b).NamesFile := by
  unfold reportedSource
  cases hs : (Dap.sourcePath? b).filter Source.isCompiled with
  | none => exact hp
  | some text =>
    obtain ⟨ht, hc⟩ := Option.filter_eq_some_iff.1 hs
    exact Source.namesFile_of_isCompiled hc (hb text ht hc)

theorem prompt_of_shortSources {pending : List Pending} {message : Json} (hp : Located pending)
    (hm : ShortSources message) : Prompt {disk} disk times pending message :=
  fun _ _ hroute p hmem breakpoints hitems b hb =>
    .inr ⟨rfl, namesFile_reportedSource (hp p hmem) (hm _ _ hroute breakpoints hitems b hb)⟩

/-- A request is redirected to a file with markers. -/
theorem namesFile_of_redirect {site : Site} {requestSeq : Int} {arguments request : Json} {r : Json × Pending}
    (h : site.redirect disk requestSeq arguments request = some r) : r.2.compiled.NamesFile := by
  obtain ⟨template, compiled, markers, -, -, hm, rfl⟩ := Site.redirect_eq_some h
  exact Disk.namesFile_of_markers hm

theorem located_without {pending : List Pending} (h : Located pending) (requestSeq : Int) :
    Located (without pending requestSeq) := fun p hp => h p (List.mem_filter.1 hp).1

theorem located_pass (h : Located d.pending) (disk : Disk) (side : Side) (message : Json) :
    Located (d.pass disk side message).2.pending := by
  unfold Direct.pass
  split
  · cases Direct.route side message with
    | redirect =>
      simp only [Direct.follow, Direct.redirectRequest]
      split
      · exact h
      · split
        · exact h
        · rename_i hr
          rintro p (_ | ⟨_, hp⟩)
          · exact namesFile_of_redirect hr
          · exact located_without h _ p hp
    | mapBack requestSeq success =>
      simp only [Direct.follow, Direct.answerRequest]
      split
      · exact h
      · exact located_without h _
    | showTrace => exact h
    | pass => exact h
  · exact h

/-- On a disk that stays as it is, each message of a run goes on as without caches, when nothing is trusted or no
response names a compiled source too long for the file system. -/
theorem run_on (t : Transcript) :
    ∀ {d : Direct} {s : Session}, times.debounce = 0 ∨ (∀ m ∈ t.from .adapter, ShortSources m) → Located d.pending →
      s.Mirrors {disk} disk times d →
      Always (run (t.on disk) s) fun r => r.1 = (Direct.run (t.on disk) d).1 := by
  induction t with
  | nil => exact fun _ _ _ => .of_pure rfl
  | cons m t ih =>
    intro d s hshort hl h
    obtain ⟨side, message⟩ := m
    refine (pass_direct h rfl disk.tellsVersions_singleton side message).andThen ?_
    rintro ⟨out, s'⟩ ⟨hout, hs'⟩
    have hrest : times.debounce = 0 ∨ ∀ m ∈ Transcript.from .adapter t, ShortSources m := by
      refine hshort.imp_right fun hm m hmem => hm m ?_
      cases side with
      | client => simpa using hmem
      | adapter => simp [hmem]
    refine (ih hrest (located_pass hl disk side message) hs').andThen ?_
    rintro ⟨outs, s''⟩ houts
    refine .of_pure ?_
    have hsame : out = (d.pass disk side message).1 := by
      refine hout fun hside => ?_
      rcases hshort with h0 | hm
      · exact prompt_untrusted h0
      · exact prompt_of_shortSources hl (hm _ (by simp [hside]))
    simp only at houts
    rw [run_on_cons, hsame]
    exact congrArg (_ :: ·) houts

/-- Whatever a session meets on a disk that stays as it is, its caches stay faithful. -/
theorem run_mirrors (events : List Event) :
    ∀ {times : Times} {d : Direct} {s : Session}, s.Mirrors {disk} disk times d →
      Always (run (events.map fun e => (disk, e)) s) fun r =>
        ∃ times, r.2.Mirrors {disk} disk times (Direct.run (events.map fun e => (disk, e)) d).2 := by
  induction events with
  | nil => exact fun h => .of_pure ⟨_, h⟩
  | cons e events ih =>
    intro times d s h
    cases e with
    | message side message =>
      refine (pass_direct h rfl disk.tellsVersions_singleton side message).andThen ?_
      rintro ⟨out, s'⟩ ⟨-, hs'⟩
      refine (ih hs').andThen ?_
      rintro ⟨outs, s''⟩ hs''
      exact .of_pure hs''
    | settings settings env => exact ih (updateSettings_direct h settings env)

/-! ## A small workspace -/

namespace Sample

/-- Compiled sources in one directory; nothing is remembered for longer than `debounceMs`. -/
def settings (debounceMs : Nat) : DebugSettings where
  webRoots := []
  compiledCacheDebounceMs := debounceMs
  resolvedPathTtlMs := 0
  workDirs := [⟨"/work"⟩]
  useDefaultWorkDirs := false
  discoveryTtlMs := 0

/-- The disk with these compiled sources. -/
def workDisk (sources : List (String × Node)) : Disk := ⟨.dir [("work", .dir sources)], [], ⟨1, 0⟩⟩

def source (inode : Nat) (text : String) : Node :=
  .file { identity := ⟨1, inode⟩, modified := ⟨0, 0⟩, bytes := Utf8.encode text }

def servlet : Disk := workDisk [("a_jsp.java", source 1 "// line 1 \"/a.jsp\"\n")]

def session (debounceMs : Nat) : Session := new (settings debounceMs) ⟨[]⟩ [⟨"/ws"⟩]

def request (seq : Int) (template : String) (lines : List Int) : Json :=
  .obj [("arguments", .obj [("breakpoints", .arr (lines.map fun line => .obj [("line", .int line)])),
      ("source", .obj [("path", .str template)])]),
    ("command", .str "setBreakpoints"), ("seq", .int seq), ("type", .str "request")]

def reported (line : Int) (source : String) : Json :=
  .obj [("line", .int line), ("source", .obj [("path", .str source)])]

def response (requestSeq : Int) (breakpoints : List Json) : Json :=
  .obj [("body", .obj [("breakpoints", .arr breakpoints)]), ("command", .str "setBreakpoints"),
    ("request_seq", .int requestSeq), ("success", .bool true), ("type", .str "response")]

end Sample

end Session

end TemplateDebug
