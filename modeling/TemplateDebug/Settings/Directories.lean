import TemplateDebug.Settings.Basic
/-!
# Directories in effect

Where templates and compiled sources are looked for: what the settings name, what the environment names, and the
conventions, in this order and each directory once.
-/

namespace TemplateDebug

/-- The variables of the environment, each with its value. -/
structure Environment where
  bindings : List (String × String)
  deriving DecidableEq, Repr

/-- The value of a variable; an empty one counts as none. -/
def Environment.nonempty? (env : Environment) (name : String) : Option String :=
  (env.bindings.lookup name).filter (!·.isEmpty)

/-- Where compiled sources lie below a workspace root by convention. -/
def conventionalWorkDirs : List String := ["target/tomcat/work", "build/jsp"]

/-- The variables that name the home of an engine. -/
def engineHomes : List String := ["CATALINA_BASE", "CATALINA_HOME", "JETTY_BASE"]

/-- The work directory of the engine whose home a variable names. -/
def Environment.engineWork? (env : Environment) (name : String) : Option Path :=
  (env.nonempty? name).map fun home => (Path.mk home).join "work"

namespace DebugSettings

/-- The web roots: those of the settings below each workspace root, then the workspace roots. Without a workspace root
only absolute ones count. -/
def effectiveWebRoots (s : DebugSettings) (roots : List Path) : List Path :=
  let below := roots.foldl (fun found root => Path.pushAllNew found (s.webRoots.map fun w => root.join w.text)) []
  let found := Path.pushAllNew below roots
  if roots.isEmpty then Path.pushAllNew found (s.webRoots.filter Path.isAbsolute) else found

/-- A directory of the settings: once if it is absolute, otherwise below each workspace root. -/
def placed (roots : List Path) (dir : Path) : List Path :=
  if dir.isAbsolute then [dir] else roots.map fun root => root.join dir.text

/-- The work directories: those of the settings, of the engines of the environment, and of the workspace roots. -/
def effectiveWorkDirs (s : DebugSettings) (env : Environment) (roots : List Path) : List Path :=
  let given := s.workDirs.foldl (fun found dir => Path.pushAllNew found (placed roots dir)) []
  if s.useDefaultWorkDirs then
    let engines := Path.pushAllNew given (engineHomes.filterMap env.engineWork?)
    roots.foldl (fun found root => Path.pushAllNew found (conventionalWorkDirs.map root.join)) engines
  else given

end DebugSettings

end TemplateDebug
