import TemplateDebug.Settings.Section
/-!
# The schema of the settings

A description of the settings document that editors can check it against: for each field its kind, its default and a
text that explains it.
-/

namespace TemplateDebug

/-- The kind of a field. A whole number has a width and a least value. -/
inductive Schema where
  | flag
  | text
  | optionalText
  | texts
  | whole (format : String) (least : Nat)
  | definition (title : String)
  deriving DecidableEq, Repr

namespace Schema

structure Property where
  name : String
  description : String
  default : Json
  kind : Schema
  deriving Repr

/-- An object of these properties and no others. -/
structure Definition where
  title : String
  description : Option String
  properties : List Property
  deriving Repr

/-- What checks a value of the kind. -/
def keywords : Schema → List (String × Json)
  | flag => [("type", .str "boolean")]
  | text => [("type", .str "string")]
  | optionalText => [("type", .arr [.str "string", .str "null"])]
  | texts => [("type", .str "array"), ("items", Json.ofMembers [("type", .str "string")])]
  | whole format least =>
    [("type", .str "integer"), ("format", .str format), ("minimum", .real (Double.ofRatio false least 1))]
  | definition title => [("allOf", .arr [Json.ofMembers [("$ref", .str ("#/definitions/" ++ title))]])]

def Property.toJson (p : Property) : Json :=
  Json.ofMembers ([("description", .str p.description), ("default", p.default)] ++ p.kind.keywords)

def Definition.members (d : Definition) : List (String × Json) :=
  (d.description.map fun text => ("description", Json.str text)).toList ++
    [("type", .str "object"), ("additionalProperties", .bool false),
      ("properties", Json.ofMembers (d.properties.map fun p => (p.name, p.toJson)))]

/-! ## The definitions -/

def count (least : Nat) : Schema := whole "uint" least

def millis : Schema := whole "uint64" 0

/-- The default of a field, as an object shows it. -/
def defaultOf (shown : Json) (name : String) : Json := (shown.get? name).getD .null

def debugDefinition : Definition :=
  let property (name : String) (kind : Schema) (description : String) : Property :=
    ⟨name, description, defaultOf (DebugSettings.toJson {}) name, kind⟩
  { title := "DebugMappingConfig"
    description := some "Settings consumed by the debug-message interceptor."
    properties := [
      property "enabled" flag "Master switch. When disabled every debug message passes through untouched.",
      property "verbose" flag "Log one line for every frame or breakpoint that gets rewritten.",
      property "web_roots" texts
        ("Directories that templates are served from.\n\n" ++
          "Relative entries are resolved against each workspace root."),
      property "compiled_cache_max_entries" (count 1)
        "Maximum number of compiled sources whose markers are kept in memory.",
      property "compiled_cache_debounce_ms" millis
        "Window during which a cached compiled source is trusted without a `stat`.",
      property "resolved_path_ttl_ms" millis
        "How long a template reference stays resolved to a workspace path.",
      property "work_dirs" texts
        ("Extra JSP engine work directories to search for compiled sources.\n\n" ++
          "Relative entries are resolved against each workspace root."),
      property "use_default_work_dirs" flag
        ("Also search the conventional engine work directories (see [`WORK_DIR_ENV_VARS`] and " ++
          "[`DEFAULT_WORKSPACE_WORK_DIRS`])."),
      property "max_scan_files" (count 0)
        "Upper bound on files visited by a single compiled-source discovery pass.",
      property "discovery_ttl_ms" millis
        "How long a discovery result (including \"not found\") is reused."] }

def loggingDefinition : Definition :=
  let property (name : String) (kind : Schema) (description : String) : Property :=
    ⟨name, description, defaultOf (LoggingSettings.section.toJson {}) name, kind⟩
  { title := "LoggingConfig"
    description := none
    properties := [
      property "level" text "Logging level (`info`, `debug`, ...) or a full `EnvFilter` directive string.",
      property "json" flag "Emit logs in JSON format.",
      property "stderr" flag
        ("Write logs to stderr.\n\n" ++
          "stdout is never used: in the proxy binary it carries the debug protocol stream."),
      property "file" optionalText
        ("Append logs to the given file path.\n\n" ++
          "If the file cannot be opened, file logging is disabled while other sinks remain active.")] }

def settingsDefinition : Definition :=
  let property (name title : String) (description : String) : Property :=
    ⟨name, description, defaultOf (Settings.toJson {}) name, definition title⟩
  { title := "JspDebugConfig"
    description := some ("Top-level `jspdbg.toml` document.\n\n" ++
      "```toml [debug] enabled = true verbose = false web_roots = [\"src/main/webapp\"] " ++
      "work_dirs = [\"/opt/tomcat/work\"] max_scan_files = 5000\n\n[logging] level = \"debug\" ```")
    properties := [
      property "debug" "DebugMappingConfig" "Template-to-servlet mapping for debug sessions.",
      property "logging" "LoggingConfig" "Diagnostic logging."] }

/-- The name of the schema language, by the address of its own schema. -/
def language : String := String.intercalate "/" ["http:", "", "json-schema.org", "draft-07", "schema#"]

/-- The schema of the settings document. -/
def settings : Json :=
  let definitions := [debugDefinition, loggingDefinition]
  Json.ofMembers ([("$schema", .str language), ("title", .str settingsDefinition.title),
    ("definitions", Json.ofMembers (definitions.map fun d => (d.title, Json.ofMembers d.members)))] ++
    settingsDefinition.members)

end Schema

end TemplateDebug
