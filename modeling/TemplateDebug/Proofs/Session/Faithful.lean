import TemplateDebug.Proofs.Compiled.Locator
import TemplateDebug.Proofs.Session.Direct
import TemplateDebug.Proofs.Session.Handlers
import TemplateDebug.Proofs.Template.Resolver
/-!
# Caches that answer as the disk does

The caches of a session are faithful when each of the three is: markers come from some version of their file, and the
two memos hold what the disk answers or nothing that is trusted. Faithful caches answer every question as the disk
does and stay faithful, so a session with faithful caches handles a message as a session without caches would. One
answer is conditional: a trusted read of markers, which the responses to redirected requests are mapped with.
-/

namespace TemplateDebug.Session

open Compiled (Limits)

/-- How long a session trusts what it remembers. -/
structure Times where
  debounce : Nat
  resolver : Nat
  locator : Nat
  deriving DecidableEq, Repr

namespace Caches

def site (c : Caches) : Site :=
  ⟨c.resolver.webRoots, c.locator.workDirs, c.locator.limits.maxScanFiles, c.workspaceRoots⟩

def times (c : Caches) : Times := ⟨c.markers.debounce, c.resolver.ttl, c.locator.limits.ttl⟩

/-- The caches answer as `disk` does, where `past` are the disks there have been. -/
structure Faithful (past : Set Disk) (disk : Disk) (site : Site) (times : Times) (c : Caches) : Prop where
  site_eq : c.site = site
  times_eq : c.times = times
  known : c.markers.Known past
  resolver : c.resolver.Current disk
  locator : c.locator.Current disk site.refsOf

variable {past : Set Disk} {disk : Disk} {site : Site} {times : Times} {c : Caches} {p template : Path} {ref : String}

theorem Faithful.readFresh (h : c.Faithful past disk site times) (hd : disk ∈ past) (ht : Disk.TellsVersions past) :
    Always (c.readFresh disk.tickingHost p) fun r => r.1 = disk.markers p ∧ r.2.Faithful past disk site times := by
  refine (MarkerCache.readFresh_current h.known hd ht).andThen ?_
  rintro ⟨_, cache⟩ ⟨rfl, hknown, hdebounce⟩
  refine .of_pure ⟨rfl, h.site_eq, ?_, hknown, h.resolver, h.locator⟩
  rw [← h.times_eq]
  exact congrArg (Times.mk · _ _) hdebounce

theorem Faithful.readCached (h : c.Faithful past disk site times) (hd : disk ∈ past) (ht : Disk.TellsVersions past) :
    Always (c.readCached disk.tickingHost p) fun r =>
      (MarkerCache.Timely past disk times.debounce p → r.1 = disk.markers p) ∧ r.2.Faithful past disk site times := by
  refine (MarkerCache.readCached_current h.known hd ht).andThen ?_
  rintro ⟨ms, cache⟩ ⟨hm, hknown, hdebounce⟩
  have hdeb : c.markers.debounce = times.debounce := congrArg Times.debounce h.times_eq
  refine .of_pure ⟨fun hp => hm (hdeb ▸ hp), h.site_eq, ?_, hknown, h.resolver, h.locator⟩
  rw [← h.times_eq]
  exact congrArg (Times.mk · _ _) hdebounce

theorem Faithful.resolve (h : c.Faithful past disk site times) :
    Always (c.resolve disk.tickingHost ref) fun r =>
      r.1 = disk.search site.webRoots ref ∧ r.2.Faithful past disk site times := by
  refine (Template.Resolver.resolve_current h.resolver).andThen ?_
  rintro ⟨found, resolver⟩ ⟨hf, hcurrent, hroots, httl⟩
  have hw : c.resolver.webRoots = site.webRoots := congrArg Site.webRoots h.site_eq
  refine .of_pure ⟨by rw [← hw]; exact hf, ?_, ?_, h.known, hcurrent, h.locator⟩
  · rw [← h.site_eq]
    exact congrArg (Site.mk · _ _ _) hroots
  · rw [← h.times_eq]
    exact congrArg (Times.mk _ · _) httl

theorem Faithful.locate (h : c.Faithful past disk site times) (hd : disk ∈ past) (ht : Disk.TellsVersions past) :
    Always (c.locate disk.tickingHost template (site.refsOf template)) fun r =>
      r.1 = site.compiled? disk template ∧ r.2.Faithful past disk site times := by
  have hr : ∀ p q : Path, p.components = q.components → site.refsOf p = site.refsOf q :=
    fun p q hpq => Template.plausibleRefs_congr hpq site.webRoots
  refine (Compiled.Locator.find_current h.locator h.known hd ht hr).andThen ?_
  rintro ⟨found, locator, markers⟩ ⟨hf, hcurrent, hdirs, hlimits, hknown, hdebounce⟩
  have hw : c.locator.workDirs = site.workDirs := congrArg Site.workDirs h.site_eq
  have hn : c.locator.limits.maxScanFiles = site.maxScanFiles := congrArg Site.maxScanFiles h.site_eq
  rw [hw, hn] at hf
  refine .of_pure ⟨hf, ?_, ?_, hknown, h.resolver, hcurrent⟩
  · rw [← h.site_eq]
    exact congrArg₂ (Site.mk _ · · _) hdirs (congrArg Limits.maxScanFiles hlimits)
  · rw [← h.times_eq]
    exact congrArg₂ (Times.mk · _ ·) hdebounce (congrArg Limits.ttl hlimits)

/-! ## The same caches later -/

theorem faithful_new (past : Set Disk) (disk : Disk) (s : DebugSettings) (env : Environment) (roots : List Path) :
    (Caches.new s env roots).Faithful past disk (.ofSettings s env roots)
      ⟨nanosOfMillis s.compiledCacheDebounceMs, nanosOfMillis s.resolvedPathTtlMs, nanosOfMillis s.discoveryTtlMs⟩ where
  site_eq := rfl
  times_eq := rfl
  known := MarkerCache.known_new past _
  resolver := Template.Resolver.current_new disk _ _
  locator := Compiled.Locator.current_new disk _ _ _

/-- New settings keep markers, which stay known, and forget the rest. -/
theorem Faithful.reconfigure (h : c.Faithful past disk site times) (s : DebugSettings) (env : Environment) :
    (c.reconfigure s env).Faithful past disk (.ofSettings s env site.workspaceRoots)
      ⟨nanosOfMillis s.compiledCacheDebounceMs, nanosOfMillis s.resolvedPathTtlMs, nanosOfMillis s.discoveryTtlMs⟩ where
  site_eq := by rw [← h.site_eq]; rfl
  times_eq := rfl
  known := h.known.updateOptions _
  resolver := Template.Resolver.current_new disk _ _
  locator := Compiled.Locator.current_new disk _ _ _

/-- Caches whose memos are never trusted are faithful to any disk. -/
theorem Faithful.change (h : c.Faithful past disk site times) (hr : times.resolver = 0) (hl : times.locator = 0)
    (disk' : Disk) : c.Faithful past disk' site times where
  site_eq := h.site_eq
  times_eq := h.times_eq
  known := h.known
  resolver := .inl ((congrArg Times.resolver h.times_eq).trans hr)
  locator := .inl ((congrArg Times.locator h.times_eq).trans hl)

end Caches

end TemplateDebug.Session
