import TemplateDebug.Disk.Host
import TemplateDebug.Settings.Section
/-!
# Settings that cannot be had

A file of settings may be unreadable, no TOML at all, or TOML that is no settings; an object of settings may not fit.
-/

namespace TemplateDebug

inductive SettingsError where
  | unreadable (path : Path) (error : FileError)
  | notText (path : Path)
  | notToml
  | tomlMisfit (misfit : Misfit)
  | jsonMisfit (misfit : Misfit)
  deriving Repr

namespace SettingsError

def unreadableMessage (p : Path) (reason : String) : String :=
  "failed to read config file " ++ p.text ++ ": " ++ reason

def message : SettingsError → String
  | unreadable p e => unreadableMessage p e.message
  | notText p => unreadableMessage p "stream did not contain valid UTF-8"
  | notToml => "failed to parse toml config: invalid TOML"
  | tomlMisfit e => "failed to parse toml config: " ++ e.message
  | jsonMisfit e => "failed to parse settings: " ++ e.message

end SettingsError

/-- The debug settings that an editor hands over. -/
def DebugSettings.load (j : Json) : Except SettingsError DebugSettings :=
  (DebugSettings.ofJson j).mapError .jsonMisfit

end TemplateDebug
