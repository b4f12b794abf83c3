import Mathlib.Data.Set.Insert
import TemplateDebug.Proofs.Session.Outcome
/-!
# The history of a session

A session comes about by passing messages and taking new settings. Each message meets a machine, which answers as it
likes, and a clock that shows what it likes; a disk is one machine. Whatever the machines answer, markers are those of
bytes that were read, remembered files are those that a search found, and what is located is a compiled source.
-/

namespace TemplateDebug.Session

open Relay (Side)

/-- A message that passed: as it came and as it went on, and whether mapping was on. -/
structure Passage where
  side : Side
  message : Json
  enabled : Bool
  out : Json

/-- The passages of a session on machines of a set, the latest first, and the session after them. -/
inductive Met (machines : Set (Host (StateM Clock))) : List Passage → Session → Prop where
  | fresh (settings : DebugSettings) (env : Environment) (roots : List Path) : Met machines [] (new settings env roots)
  | passed {history : List Passage} {s : Session} {machine : Host (StateM Clock)} (met : Met machines history s)
      (mem : machine ∈ machines) (side : Side) (message : Json) (clock : Clock) :
      Met machines
        (⟨side, message, s.settings.enabled, (Relay.pass machine side message s clock).1.1⟩ :: history)
        (Relay.pass machine side message s clock).1.2
  | updated {history : List Passage} {s : Session} (met : Met machines history s) (settings : DebugSettings)
      (env : Environment) : Met machines history (s.updateSettings settings env)

namespace Knowledge

/-- The answers are those of some machines, where files are searched for below these directories. -/
def answers (machines : Set (Host (StateM Clock))) (webRoots : List Path) : Knowledge where
  markers := MarkerCache.GivenBy machines
  resolver r := r.SearchedBy machines ∧ r.webRoots = webRoots
  gives := MarkerCache.Given machines
  finds := Template.Resolver.Searched machines webRoots

/-- Markers are kept for versions of files that disks of the past showed. -/
def versions (past : Set Disk) : Knowledge where
  markers := MarkerCache.Known past
  resolver _ := True
  gives _ _ := True
  finds _ _ := True

variable {machines : Set (Host (StateM Clock))} {machine : Host (StateM Clock)} {past : Set Disk} {disk : Disk}

theorem on_answers (hm : machine ∈ machines) (webRoots : List Path) : (answers machines webRoots).On machine where
  reads := MarkerCache.reads_given hm
  resolve := by
    rintro r ⟨hr, rfl⟩ ref
    exact Template.Resolver.resolve_searched hr hm ref

theorem on_versions (hd : disk ∈ past) : (versions past).On disk.tickingHost where
  reads := MarkerCache.reads_known hd
  resolve _ _ := Always.trivial.mono fun _ _ => ⟨trivial, trivial⟩

end Knowledge

namespace Met

variable {machines : Set (Host (StateM Clock))} {machine : Host (StateM Clock)} {history : List Passage} {s : Session}
  {past : Set Disk}

/-- The caches answer as the machines have answered. -/
theorem answers (h : Met machines history s) : s.caches.Meet (.answers machines s.caches.resolver.webRoots) := by
  induction h with
  | fresh settings env roots =>
    exact ⟨MarkerCache.givenBy_new machines _, ⟨Template.Resolver.searchedBy_new machines _ _, rfl⟩,
      Compiled.Locator.located_new _ _⟩
  | updated _ settings env ih =>
    exact ⟨ih.markers.updateOptions _, ⟨Template.Resolver.searchedBy_new machines _ _, rfl⟩,
      Compiled.Locator.located_new _ _⟩
  | passed _ hm side message clock ih =>
    obtain ⟨-, -, hmarkers, ⟨hsearched, hroots⟩, hlocated⟩ :=
      pass_outcome ih (Knowledge.on_answers hm _) side message clock
    exact ⟨hmarkers, ⟨hsearched, rfl⟩, hlocated⟩

/-- On disks, the caches hold versions of files. -/
theorem versions (h : Met (Disk.tickingHost '' past) history s) :
    s.caches.Meet (.versions past) := by
  induction h with
  | fresh settings env roots =>
    exact ⟨MarkerCache.known_new past _, trivial, Compiled.Locator.located_new _ _⟩
  | updated _ settings env ih => exact ⟨ih.markers.updateOptions _, trivial, Compiled.Locator.located_new _ _⟩
  | passed _ hm side message clock ih =>
    obtain ⟨disk, hd, rfl⟩ := hm
    exact (pass_outcome ih (Knowledge.on_versions hd) side message clock).2.2

/-- What becomes of the next message. -/
theorem outcome (h : Met machines history s) (hm : machine ∈ machines) (side : Side) (message : Json) (clock : Clock) :
    Outcome (.answers machines s.caches.resolver.webRoots) s side message
      (Relay.pass machine side message s clock).1.1 (Relay.pass machine side message s clock).1.2.pending :=
  (pass_outcome h.answers (Knowledge.on_answers hm _) side message clock).1

end Met

/-! ## Messages in a row -/

/-- A history and a session, after messages that meet one machine. -/
def passAll (machine : Host (StateM Clock)) (clock : Clock) : List (Side × Json) → List Passage → Session →
    List Passage × Session
  | [], history, s => (history, s)
  | (side, message) :: rest, history, s =>
    let passed := (Relay.pass machine side message s clock).1
    passAll machine clock rest (⟨side, message, s.settings.enabled, passed.1⟩ :: history) passed.2

theorem Met.passAll {machines : Set (Host (StateM Clock))} {machine : Host (StateM Clock)} (hm : machine ∈ machines)
    (clock : Clock) (messages : List (Side × Json)) :
    ∀ {history : List Passage} {s : Session}, Met machines history s →
      Met machines (passAll machine clock messages history s).1 (passAll machine clock messages history s).2 := by
  induction messages with
  | nil => exact id
  | cons m messages ih => exact fun h => ih (h.passed hm m.1 m.2 clock)

end TemplateDebug.Session
