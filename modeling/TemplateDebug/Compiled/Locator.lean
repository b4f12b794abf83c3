import TemplateDebug.Cache.Memo
import TemplateDebug.Compiled.MarkerCache
import TemplateDebug.Source.Kind
import TemplateDebug.Template.Reference
/-!
# Locating compiled sources

The compiled source of a template is found by its markers: the files of the work directories are walked in order, and
the first compiled source with a marker that names the template is the one. A walk visits a limited number of files.
Answers, also that there is none, are kept for a while, as long as the file found is there.
-/

namespace TemplateDebug.Compiled

/-- How many files a walk visits, over all work directories, and for how many nanoseconds its answer is good. -/
structure Limits where
  maxScanFiles : Nat
  ttl : Nat
  deriving DecidableEq, Repr

structure Locator where
  workDirs : List Path
  limits : Limits
  memo : Memo (List Path.Component) (Option Path)
  deriving Repr

namespace Locator

variable {m : Type → Type} [Monad m]

def new (workDirs : List Path) (limits : Limits) : Locator := ⟨workDirs, limits, Memo.empty⟩

def clear (l : Locator) : Locator := { l with memo := Memo.empty }

/-- One of the markers names the template by one of the references. -/
def names (refs : List String) (markers : Array Marker) : Bool :=
  markers.any fun marker => Template.anyMatches refs marker.templateRef

/-- The first of the files that is a compiled source of the template, with at most `remaining` of them visited. -/
def firstOf (host : Host m) (limit : Nat) (refs : List String) (remaining : Nat) (cache : MarkerCache) :
    List Path → m (Option Path × MarkerCache)
  | [] => pure (none, cache)
  | p :: ps => match remaining with
    | 0 => do
      host.log (Log.Notice.budgetExhausted limit)
      pure (none, cache)
    | remaining + 1 =>
      if Source.isCompiled p.text then do
        let (found, cache) ← cache.readFresh host p
        if found.any (names refs) then
          host.log (Log.Notice.located p (limit - remaining))
          pure (some p, cache)
        else firstOf host limit refs remaining cache ps
      else firstOf host limit refs remaining cache ps

/-- The files of all work directories, in order. -/
def filesBelow (host : Host m) : List Path → m (List Path)
  | [] => pure []
  | dir :: dirs => do
    let files ← host.filesBelow dir
    let rest ← filesBelow host dirs
    pure (files ++ rest)

/-- Walks the work directories; without references there is nothing to look for. -/
def scan (host : Host m) (refs : List String) (l : Locator) (cache : MarkerCache) : m (Option Path × MarkerCache) :=
  if refs.isEmpty then pure (none, cache)
  else do
    let files ← filesBelow host l.workDirs
    firstOf host l.limits.maxScanFiles refs l.limits.maxScanFiles cache files

/-- An answer that is still good: young enough, and the file it gives is there. -/
def known? (host : Host m) (now : Nat) (template : Path) (l : Locator) : m (Option (Option Path)) :=
  match l.memo.fresh? l.limits.ttl now template.components with
  | some (some p) => do if ← host.isFile p then pure (some (some p)) else pure none
  | answer => pure answer

/-- The compiled source of a template, which markers name by one of the references. -/
def find (host : Host m) (template : Path) (refs : List String) (l : Locator) (cache : MarkerCache) :
    m (Option Path × Locator × MarkerCache) := do
  let now ← host.now
  match ← l.known? host now template with
  | some answer => pure (answer, l, cache)
  | none =>
    let (found, cache) ← l.scan host refs cache
    pure (found, { l with memo := l.memo.record now template.components found }, cache)

end Locator

end TemplateDebug.Compiled
