import TemplateDebug.Settings.Directories
import TemplateDebug.Settings.Error
import TemplateDebug.Toml.Reader
/-!
# Loading settings

Settings are kept in a TOML file, which the environment names or which lies in the first workspace root. Without a
file the default settings hold.
-/

namespace TemplateDebug

/-- The key of the single member that a date or time has as a table. -/
def Document.dateTimeKey : String := "$__toml_private_datetime"

mutual
def Document.ofToml : Toml → Document
  | .text s => .text s
  | .integer n => .integer n
  | .real x => .real (DecimalStyle.plain.writeDouble x)
  | .flag b => .flag b
  | .dateTime s => .table [(dateTimeKey, .text s)]
  | .list items => .list (Document.ofTomlItems items)
  | .tables items => .list (Document.ofTomlItems items)
  | .table _ members => .table (Document.ofTomlMembers members)

def Document.ofTomlItems : List Toml → List Document
  | [] => []
  | t :: ts => Document.ofToml t :: Document.ofTomlItems ts

def Document.ofTomlMembers : List (String × Toml) → List (String × Document)
  | [] => []
  | (k, t) :: ms => (k, Document.ofToml t) :: Document.ofTomlMembers ms
end

namespace Settings

/-- The settings that a TOML text gives. -/
def ofToml (text : String) : Except SettingsError Settings :=
  match Toml.parse? text with
  | none => .error .notToml
  | some members => (ofDocument (.table (Document.ofTomlMembers members))).mapError .tomlMisfit

/-- The settings in the bytes of a file. -/
def ofBytes (p : Path) (bytes : Bytes) : Except SettingsError Settings :=
  match Utf8.decode? bytes with
  | none => .error (.notText p)
  | some text => ofToml text

/-- The variable that names the file of settings. -/
def variableName : String := "JSPDBG_CONFIG"

/-- The names of the file of settings in a workspace root. -/
def fileNames : List String := ["jspdbg.toml", ".jspdbg.toml"]

variable {m : Type → Type} [Monad m]

def loadFile (host : Host m) (p : Path) : m (Except SettingsError Settings) := do
  match ← host.read p with
  | .ok bytes => pure (ofBytes p bytes)
  | .error e => pure (.error (.unreadable p e))

/-- The file of settings for a workspace root: the one that the environment names, there or not, or else the first
that is there. -/
def discover (host : Host m) (env : Environment) (root : Path) : m (Option Path) :=
  match env.nonempty? variableName with
  | some named => pure (some (root.join named))
  | none => host.firstFile? (fileNames.map root.join)

/-- The settings for a workspace root, and the file they are from. -/
def loadFor (host : Host m) (env : Environment) (root : Path) : m (Except SettingsError (Settings × Option Path)) := do
  match ← discover host env root with
  | none => pure (.ok ({}, none))
  | some p => pure ((← loadFile host p).map fun s => (s, some p))

end Settings

end TemplateDebug
