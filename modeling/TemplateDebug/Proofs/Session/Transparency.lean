import TemplateDebug.Disk.Edit
import TemplateDebug.Proofs.Disk.Versions
import TemplateDebug.Proofs.Session.Run
/-!
# Caches that nobody notices

With every duration zero, a session on a changing disk sends on what a session without caches sends on, whatever the
bound of its cache and whatever its clock shows. Fingerprints have to tell for this what reading a file gives, and not
only its bytes.
-/

namespace TemplateDebug.Session

open Relay (Side)

/-- Nothing is trusted unchecked, files may change between any two messages, and fingerprints tell their versions apart:
each message goes on as without caches, so how many compiled sources are kept makes no difference. -/
theorem outputs_eq_direct (settings : DebugSettings) (env : Environment) (roots : List Path)
    (hdebounce : settings.compiledCacheDebounceMs = 0) (hresolved : settings.resolvedPathTtlMs = 0)
    (hdiscovery : settings.discoveryTtlMs = 0) (deliveries : List (Disk × Side × Json))
    (htells : Disk.TellsVersions {disk | ∃ m ∈ deliveries, m.1 = disk}) (clock : Clock) :
    (run (deliver deliveries) (new settings env roots) clock).1.1 =
        (Direct.run (deliver deliveries) (.new settings env roots)).1 ∧
      ∀ (maxEntries : Nat) (clock' : Clock),
        (run (deliver deliveries) (new { settings with compiledCacheMaxEntries := maxEntries } env roots) clock').1.1 =
          (run (deliver deliveries) (new settings env roots) clock).1.1 := by
  have hpast : ∀ m ∈ deliveries, m.1 ∈ {disk | ∃ m ∈ deliveries, m.1 = disk} := fun m hm => ⟨m, hm, rfl⟩
  have htimes : (⟨nanosOfMillis settings.compiledCacheDebounceMs, nanosOfMillis settings.resolvedPathTtlMs,
      nanosOfMillis settings.discoveryTtlMs⟩ : Times) = ⟨0, 0, 0⟩ := by
    simp only [hdebounce, hresolved, hdiscovery, nanosOfMillis, Nat.zero_mul]
  have hall : ∀ maxEntries : Nat,
      Always (run (deliver deliveries) (new { settings with compiledCacheMaxEntries := maxEntries } env roots)) fun r =>
        r.1 = (Direct.run (deliver deliveries) (.new settings env roots)).1 := by
    intro maxEntries
    -- the disk of the start does not matter, as nothing remembered is trusted
    have h := mirrors_new {disk | ∃ m ∈ deliveries, m.1 = disk} ⟨.dir [], [], ⟨1, 0⟩⟩
      { settings with compiledCacheMaxEntries := maxEntries } env roots
    exact run_untrusted htells deliveries hpast (htimes ▸ h)
  have hown := hall settings.compiledCacheMaxEntries clock
  refine ⟨hown, fun maxEntries clock' => ?_⟩
  rw [hall maxEntries clock']
  exact hown.symm

/-- A compiled source before and after it is compiled again. -/
def recompiled : List (Disk × Side × Json) :=
  [(Sample.workDisk [("a_jsp.java", Sample.source 1 "// line 1 \"/a.jsp\"\n")], .client,
      Sample.request 1 "/ws/a.jsp" [1]),
    (Sample.workDisk [("a_jsp.java", Sample.source 2 "\n// line 1 \"/a.jsp\"\n")], .client,
      Sample.request 2 "/ws/a.jsp" [1])]

theorem tellsVersions_recompiled : Disk.TellsVersions {disk | ∃ m ∈ recompiled, m.1 = disk} :=
  Disk.tellsVersions_of_list Prod.fst (by decide +kernel)

theorem tellsContents_recompiled : Disk.TellsContents {disk | ∃ m ∈ recompiled, m.1 = disk} :=
  Disk.tellsContents_of_list Prod.fst (by decide +kernel)

/-- The second request meets the new version of the compiled source, one line further down. -/
theorem outputs_recompiled :
    (run (deliver recompiled) (Sample.session 0) (Stream'.const 0)).1.1 =
      (Direct.run (deliver recompiled) (.new (Sample.settings 0) ⟨[]⟩ [⟨"/ws"⟩])).1 ∧
    (Direct.run (deliver recompiled) (.new (Sample.settings 0) ⟨[]⟩ [⟨"/ws"⟩])).1.map
      (fun m => (m.2.get? "arguments").bind fun a => (a.get? "breakpoints")) =
        [some (.arr [.obj [("line", .int 2)]]), some (.arr [.obj [("line", .int 3)]])] :=
  ⟨(outputs_eq_direct (Sample.settings 0) ⟨[]⟩ [⟨"/ws"⟩] rfl rfl rfl recompiled tellsVersions_recompiled _).1,
    by decide +kernel⟩

/-- The compiled source may no longer be read. -/
def Sample.refused : Disk := servlet.permit ⟨"/work/a_jsp.java"⟩ false

/-- A compiled source before and after it may no longer be read; its fingerprint stays. -/
def refusedLater : List (Disk × Side × Json) :=
  [(Sample.servlet, .client, Sample.request 1 "/ws/a.jsp" [1]),
    (Sample.refused, .client, Sample.request 2 "/ws/a.jsp" [1])]

theorem tellsContents_refusedLater : Disk.TellsContents {disk | ∃ m ∈ refusedLater, m.1 = disk} :=
  Disk.tellsContents_of_list Prod.fst (by decide +kernel)

/-- It is not enough that different bytes come with different fingerprints: what was read of a file is still given when
the file may no longer be read, where a session without caches finds nothing. -/
theorem outputs_not_always_direct :
    ¬ ∀ (settings : DebugSettings) (env : Environment) (roots : List Path) (deliveries : List (Disk × Side × Json))
      (clock : Clock), settings.compiledCacheDebounceMs = 0 → settings.resolvedPathTtlMs = 0 →
      settings.discoveryTtlMs = 0 → Disk.TellsContents {disk | ∃ m ∈ deliveries, m.1 = disk} →
      (run (deliver deliveries) (new settings env roots) clock).1.1 =
        (Direct.run (deliver deliveries) (.new settings env roots)).1 := by
  intro h
  have hsame := h (Sample.settings 0) ⟨[]⟩ [⟨"/ws"⟩] refusedLater (Stream'.const 0) rfl rfl rfl
    tellsContents_refusedLater
  exact absurd hsame (by decide +kernel)

end TemplateDebug.Session
