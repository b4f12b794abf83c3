import TemplateDebug.Path.Basic
/-!
# Settings

What a user can set, with the values that hold when nothing is set. Durations are in milliseconds.
-/

namespace TemplateDebug

/-- How debug messages are mapped. -/
structure DebugSettings where
  /-- Off, every message passes through untouched. -/
  enabled : Bool := true
  /-- Log each mapping. -/
  verbose : Bool := false
  /-- Where templates are served from; relative ones are below each workspace root. -/
  webRoots : List Path := [⟨"src/main/webapp"⟩, ⟨"WebContent"⟩, ⟨"web"⟩, ⟨"webapp"⟩]
  /-- How many compiled sources are kept with their markers. -/
  compiledCacheMaxEntries : Nat := 200
  /-- How long a compiled source that was checked is trusted. -/
  compiledCacheDebounceMs : Nat := 750
  /-- How long the answer for a template reference is good. -/
  resolvedPathTtlMs : Nat := 5000
  /-- Where compiled sources are looked for; relative ones are below each workspace root. -/
  workDirs : List Path := []
  /-- Also look in the directories that engines use by convention. -/
  useDefaultWorkDirs : Bool := true
  /-- How many files one search for a compiled source visits. -/
  maxScanFiles : Nat := 5000
  /-- How long the answer of such a search is good. -/
  discoveryTtlMs : Nat := 10000
  deriving DecidableEq, Repr

/-- What is logged, and where to. -/
structure LoggingSettings where
  /-- A level, or filter directives. -/
  level : String := "info"
  /-- Write objects instead of lines of text. -/
  json : Bool := false
  /-- Write to the error output. -/
  stderr : Bool := true
  /-- Append to this file. -/
  file : Option Path := none
  deriving DecidableEq, Repr

structure Settings where
  debug : DebugSettings := {}
  logging : LoggingSettings := {}
  deriving DecidableEq, Repr

/-- The nanoseconds of a duration. -/
def nanosOfMillis (ms : Nat) : Nat := ms * 1000000

end TemplateDebug
