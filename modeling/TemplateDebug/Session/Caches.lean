import TemplateDebug.Compiled.Locator
import TemplateDebug.Settings.Directories
import TemplateDebug.Template.Resolver
/-!
# The caches of a session

What the mapping of breakpoints and of stack frames shares: the markers of compiled sources, the files that
references lead to, and the compiled sources of templates.
-/

namespace TemplateDebug.Session

structure Caches where
  markers : MarkerCache
  resolver : Template.Resolver
  locator : Compiled.Locator
  workspaceRoots : List Path
  verbose : Bool
  deriving Repr

namespace Caches

def markerOptions (s : DebugSettings) : MarkerCache.Options :=
  ⟨s.compiledCacheMaxEntries, nanosOfMillis s.compiledCacheDebounceMs⟩

def limits (s : DebugSettings) : Compiled.Limits := ⟨s.maxScanFiles, nanosOfMillis s.discoveryTtlMs⟩

def newResolver (s : DebugSettings) (roots : List Path) : Template.Resolver :=
  .new (s.effectiveWebRoots roots) (nanosOfMillis s.resolvedPathTtlMs)

def newLocator (s : DebugSettings) (env : Environment) (roots : List Path) : Compiled.Locator :=
  .new (s.effectiveWorkDirs env roots) (limits s)

def new (s : DebugSettings) (env : Environment) (roots : List Path) : Caches where
  markers := .new (markerOptions s)
  resolver := newResolver s roots
  locator := newLocator s env roots
  workspaceRoots := roots
  verbose := s.verbose

/-- Applies new settings. Markers stay, as far as the new bound allows; answers of the other two are forgotten. -/
def reconfigure (c : Caches) (s : DebugSettings) (env : Environment) : Caches where
  markers := c.markers.updateOptions (markerOptions s)
  resolver := newResolver s c.workspaceRoots
  locator := newLocator s env c.workspaceRoots
  workspaceRoots := c.workspaceRoots
  verbose := s.verbose

/-- The path lies under a workspace root. -/
def inWorkspace (c : Caches) (p : Path) : Bool := c.workspaceRoots.any p.startsWith

variable {m : Type → Type} [Monad m]

def readFresh (host : Host m) (p : Path) (c : Caches) : m (Option (Array Marker) × Caches) := do
  let (markers, cache) ← c.markers.readFresh host p
  pure (markers, { c with markers := cache })

def readCached (host : Host m) (p : Path) (c : Caches) : m (Option (Array Marker) × Caches) := do
  let (markers, cache) ← c.markers.readCached host p
  pure (markers, { c with markers := cache })

def resolve (host : Host m) (ref : String) (c : Caches) : m (Option Path × Caches) := do
  let (found, resolver) ← c.resolver.resolve host ref
  pure (found, { c with resolver })

def locate (host : Host m) (template : Path) (refs : List String) (c : Caches) : m (Option Path × Caches) := do
  let (found, locator, markers) ← c.locator.find host template refs c.markers
  pure (found, { c with locator, markers })

end Caches

end TemplateDebug.Session
