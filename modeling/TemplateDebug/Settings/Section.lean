import TemplateDebug.Settings.Basic
import TemplateDebug.Settings.Document
/-!
# Sections of settings

A section is a list of fields. It is read from a table, in the order of the table's members, or from a list, whose
items fill the fields in their order. A field that is not given takes its default. The first misfit is reported.
-/

namespace TemplateDebug

/-- A kind of value: how it is read, and how it is shown. -/
structure ValueKind (α : Type) where
  read : Document → Except Misfit α
  view : α → Json

/-- A setting of a section: its name, another spelling of it, the kind of its value, where the value is kept, and the
value it has when it is not given. -/
structure Field (σ : Type) where
  name : String
  alternative : Option String
  {Value : Type}
  kind : ValueKind Value
  get : σ → Value
  set : Value → σ → σ
  default : Value

structure Section (σ : Type) where
  title : String
  fields : List (Field σ)

namespace Document

/-! ## Values of fields -/

def flag? : Document → Except Misfit Bool
  | flag b => .ok b
  | d => .error (.wrongKind d .flag)

def text? : Document → Except Misfit String
  | text s => .ok s
  | d => .error (.wrongKind d .text)

def path? : Document → Except Misfit Path
  | text s => .ok ⟨s⟩
  | d => .error (.wrongKind d .path)

def pathItems? : List Document → Except Misfit (List Path)
  | [] => .ok []
  | d :: ds => do
    let p ← d.path?
    return p :: (← pathItems? ds)

def paths? : Document → Except Misfit (List Path)
  | list items => pathItems? items
  | d => .error (.wrongKind d .list)

def optionalPath? : Document → Except Misfit (Option Path)
  | null => .ok none
  | d => d.path?.map some

/-- A number that is not negative. -/
def natural? (expected : Expected) : Document → Except Misfit Nat
  | integer n => match n.toNat? with
    | some n => .ok n
    | none => .error (.outOfRange n expected)
  | d => .error (.wrongKind d expected)

end Document

namespace Section

variable {σ : Type}

/-- The spellings of a field. -/
def spellings (f : Field σ) : List String := f.alternative.toList ++ [f.name]

/-- Every key of the section. -/
def keys (s : Section σ) : List String := s.fields.flatMap spellings

def field? (s : Section σ) (key : String) : Option (Field σ) := s.fields.find? fun f => (spellings f).contains key

/-- The value with these fields at their defaults. -/
def reset (fields : List (Field σ)) (value : σ) : σ := fields.foldl (fun v f => f.set f.default v) value

/-- Takes over the members of a table; `given` names the fields that earlier members gave. -/
def readMembers (s : Section σ) (given : List String) (value : σ) :
    List (String × Document) → Except Misfit σ
  | [] => .ok (reset (s.fields.filter fun f => !given.contains f.name) value)
  | (key, d) :: rest => match s.field? key with
    | none => .error (.unknownField key s.keys)
    | some f =>
      if given.contains f.name then .error (.duplicateField f.name)
      else match f.kind.read d with
        | .ok v => readMembers s (f.name :: given) (f.set v value) rest
        | .error e => .error e

/-- Takes over the items of a list, one for each field, and gives those left over. -/
def readItems (value : σ) : List (Field σ) → List Document → Except Misfit (σ × List Document)
  | f :: fs, d :: ds => match f.kind.read d with
    | .ok v => readItems (f.set v value) fs ds
    | .error e => .error e
  | fs, ds => .ok (reset fs value, ds)

/-- The section as a document gives it, starting from `value`; `exact` refuses a list with too many items. -/
def read (s : Section σ) (exact : Bool) (value : σ) : Document → Except Misfit σ
  | .table members => s.readMembers [] value members
  | .list items => match readItems value s.fields items with
    | .ok (value, rest) => if exact && !rest.isEmpty then .error (.tooManyItems items.length) else .ok value
    | .error e => .error e
  | d => .error (.wrongKind d (.section s.title))

/-- The section as an object. -/
def toJson (s : Section σ) (value : σ) : Json :=
  Json.ofMembers (s.fields.map fun f => (f.name, f.kind.view (f.get value)))

end Section

/-! ## The kinds -/

namespace ValueKind

def pathsJson (paths : List Path) : Json := .arr (paths.map fun p => .str p.text)

def flag : ValueKind Bool := ⟨Document.flag?, .bool⟩

def text : ValueKind String := ⟨Document.text?, .str⟩

def paths : ValueKind (List Path) := ⟨Document.paths?, pathsJson⟩

def optionalPath : ValueKind (Option Path) where
  read := Document.optionalPath?
  view
    | some p => .str p.text
    | none => .null

def natural (expected : Expected) : ValueKind Nat := ⟨Document.natural? expected, fun n => .int n⟩

def ofSection {σ : Type} (s : Section σ) (value : σ) : ValueKind σ := ⟨s.read false value, s.toJson⟩

end ValueKind

/-! ## The fields -/

def DebugSettings.section : Section DebugSettings where
  title := "DebugMappingConfig"
  fields := [
    { name := "enabled", alternative := none, kind := .flag
      get := enabled, set := fun v s => { s with enabled := v }, default := true },
    { name := "verbose", alternative := none, kind := .flag
      get := verbose, set := fun v s => { s with verbose := v }, default := false },
    { name := "web_roots", alternative := some "webRoots", kind := .paths
      get := webRoots, set := fun v s => { s with webRoots := v }
      default := [⟨"src/main/webapp"⟩, ⟨"WebContent"⟩, ⟨"web"⟩, ⟨"webapp"⟩] },
    { name := "compiled_cache_max_entries", alternative := some "compiledCacheMaxEntries", kind := .natural .count
      get := compiledCacheMaxEntries, set := fun v s => { s with compiledCacheMaxEntries := v }, default := 200 },
    { name := "compiled_cache_debounce_ms", alternative := some "compiledCacheDebounceMs", kind := .natural .millis
      get := compiledCacheDebounceMs, set := fun v s => { s with compiledCacheDebounceMs := v }, default := 750 },
    { name := "resolved_path_ttl_ms", alternative := some "resolvedPathTtlMs", kind := .natural .millis
      get := resolvedPathTtlMs, set := fun v s => { s with resolvedPathTtlMs := v }, default := 5000 },
    { name := "work_dirs", alternative := some "workDirs", kind := .paths
      get := workDirs, set := fun v s => { s with workDirs := v }, default := [] },
    { name := "use_default_work_dirs", alternative := some "useDefaultWorkDirs", kind := .flag
      get := useDefaultWorkDirs, set := fun v s => { s with useDefaultWorkDirs := v }, default := true },
    { name := "max_scan_files", alternative := some "maxScanFiles", kind := .natural .count
      get := maxScanFiles, set := fun v s => { s with maxScanFiles := v }, default := 5000 },
    { name := "discovery_ttl_ms", alternative := some "discoveryTtlMs", kind := .natural .millis
      get := discoveryTtlMs, set := fun v s => { s with discoveryTtlMs := v }, default := 10000 }]

def LoggingSettings.section : Section LoggingSettings where
  title := "LoggingConfig"
  fields := [
    { name := "level", alternative := none, kind := .text
      get := level, set := fun v s => { s with level := v }, default := "info" },
    { name := "json", alternative := none, kind := .flag
      get := json, set := fun v s => { s with json := v }, default := false },
    { name := "stderr", alternative := none, kind := .flag
      get := stderr, set := fun v s => { s with stderr := v }, default := true },
    { name := "file", alternative := none, kind := .optionalPath
      get := file, set := fun v s => { s with file := v }, default := none }]

/-- The whole document; a section that is given replaces the default one. -/
def Settings.section : Section Settings where
  title := "JspDebugConfig"
  fields := [
    { name := "debug", alternative := none, kind := .ofSection DebugSettings.section {}
      get := debug, set := fun v s => { s with debug := v }, default := {} },
    { name := "logging", alternative := none, kind := .ofSection LoggingSettings.section {}
      get := logging, set := fun v s => { s with logging := v }, default := {} }]

/-- The debug settings that an editor hands over. -/
def DebugSettings.ofJson (j : Json) : Except Misfit DebugSettings :=
  DebugSettings.section.read true {} (Document.ofJson j)

def DebugSettings.toJson (s : DebugSettings) : Json := DebugSettings.section.toJson s

def Settings.ofDocument (d : Document) : Except Misfit Settings := Settings.section.read false {} d

def Settings.toJson (s : Settings) : Json := Settings.section.toJson s

end TemplateDebug
