import TemplateDebug.Cache.Recency
import TemplateDebug.Disk.Host
import TemplateDebug.Log.Notice
import TemplateDebug.Marker.Parser
/-!
# Markers of compiled sources

The parsed markers of compiled sources, kept by path and checked against the fingerprint of the file. A checked entry
is trusted for a while without asking the file system. A file that cannot be read has no markers and loses its entry.
-/

namespace TemplateDebug

/-- How many compiled sources are kept, and for how many nanoseconds a checked one is trusted. -/
structure MarkerCache.Options where
  maxEntries : Nat
  debounce : Nat
  deriving DecidableEq, Repr

structure MarkerCache.Entry where
  fingerprint : Fingerprint
  markers : Array Marker
  checkedAt : Nat
  deriving Repr

structure MarkerCache where
  entries : Recency (List Path.Component) MarkerCache.Entry
  debounce : Nat
  /-- How often the state of a file was asked for. -/
  metadataReads : Nat
  deriving Repr

namespace MarkerCache

variable {m : Type → Type} [Monad m]

def new (o : Options) : MarkerCache := ⟨Recency.empty o.maxEntries, o.debounce, 0⟩

def size (cache : MarkerCache) : Nat := cache.entries.size

/-- The path has an entry; asking does not make it more recent. -/
def contains (cache : MarkerCache) (p : Path) : Bool := cache.entries.contains p.components

/-- Applies new limits at once. -/
def updateOptions (cache : MarkerCache) (o : Options) : MarkerCache :=
  { cache with entries := cache.entries.resize o.maxEntries, debounce := o.debounce }

def clear (cache : MarkerCache) : MarkerCache := { cache with entries := cache.entries.clear }

/-- Keeps an entry as the most recent one. -/
def keep (cache : MarkerCache) (p : Path) (e : Entry) : MarkerCache :=
  { cache with entries := cache.entries.put p.components e }

def drop (cache : MarkerCache) (p : Path) : MarkerCache :=
  { cache with entries := cache.entries.erase p.components }

/-- The entry of a path that needs no check yet. -/
def trusted? (cache : MarkerCache) (now : Nat) (p : Path) : Option Entry :=
  (cache.entries.find? p.components).filter fun e => now - e.checkedAt < cache.debounce

/-- The entry of a path whose file is as the fingerprint tells. -/
def current? (cache : MarkerCache) (f : Fingerprint) (p : Path) : Option Entry :=
  (cache.entries.find? p.components).filter fun e => e.fingerprint.describes f

/-- The markers in the bytes of a compiled source. -/
def markersIn (bytes : Bytes) : Array Marker := Marker.parse (Utf8.decodeLossy bytes)

/-- Reads and parses a file whose fingerprint is known. -/
def load (host : Host m) (now : Nat) (f : Fingerprint) (p : Path) (cache : MarkerCache) :
    m (Option (Array Marker) × MarkerCache) := do
  match ← host.read p with
  | .ok bytes =>
    let markers := markersIn bytes
    host.log (Log.Notice.parsed p markers.size)
    pure (some markers, cache.keep p ⟨f, markers, now⟩)
  | .error e =>
    host.log (Log.Notice.readFailed p e)
    pure (none, cache.drop p)

/-- The markers of a file, checked against its fingerprint. -/
def check (host : Host m) (now : Nat) (p : Path) (cache : MarkerCache) : m (Option (Array Marker) × MarkerCache) := do
  let cache := { cache with metadataReads := cache.metadataReads + 1 }
  match ← host.stat p with
  | .ok (.regular f) => match cache.current? f p with
    | some e => pure (some e.markers, cache.keep p { e with checkedAt := now })
    | none => cache.load host now f p
  | .ok .directory => pure (none, cache.drop p)
  | .error e =>
    host.log (Log.Notice.unreadable p e)
    pure (none, cache.drop p)

/-- The markers of a file as it is now. -/
def readFresh (host : Host m) (p : Path) (cache : MarkerCache) : m (Option (Array Marker) × MarkerCache) := do
  let now ← host.now
  cache.check host now p

/-- The markers of a file, as it was a moment ago if that is known. -/
def readCached (host : Host m) (p : Path) (cache : MarkerCache) : m (Option (Array Marker) × MarkerCache) := do
  let now ← host.now
  match cache.trusted? now p with
  | some e => pure (some e.markers, cache.keep p e)
  | none => cache.check host now p

end MarkerCache

end TemplateDebug
