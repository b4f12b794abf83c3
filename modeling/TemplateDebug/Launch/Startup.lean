import TemplateDebug.Launch.Arguments
import TemplateDebug.Log.Filter
import TemplateDebug.Log.Format
import TemplateDebug.Relay.Basic
import TemplateDebug.Settings.Load
/-!
# Starting

A start reads the settings, opens the log and reaches the adapter, in this order. Settings that cannot be had are
complained of and replaced by the default ones; without an adapter there is no start. Adapters are programs of others:
the machine reaches them, and nothing is said here about what they are.
-/

namespace TemplateDebug.Launch

/-- The machine as the whole program needs it: files and the clock, an error output and log files, both by lines, and
the adapters, each of them a peer. -/
structure Machine (m : Type → Type) (Peer : Type) where
  host : Host m
  timestamp : m String
  complain : String → m Unit
  /-- Opens a file for adding lines, which is made if it is not there, and tells whether that went well. -/
  openLog : Path → m Bool
  appendLog : Path → String → m Unit
  /-- Reaches the adapter that listens at an address, or tells why there is none. -/
  connect : String → m (Except String Peer)
  /-- Starts the adapter of a command with its arguments, or tells why it does not start. -/
  spawn : String → List String → m (Except String Peer)

/-- Why the program ends early, and what lies behind that. -/
structure Failure where
  message : String
  cause : Option String
  deriving DecidableEq, Repr

def Failure.lines (f : Failure) : List String :=
  ("Error: " ++ f.message) :: match f.cause with
    | some cause => ["", "Caused by:", "    " ++ cause]
    | none => []

def noAdapter : Failure := ⟨"expected `--connect <host:port>` or an adapter command after `--`", none⟩

variable {m : Type → Type} [Monad m] {Peer : Type}

/-! ## Settings -/

/-- The workspace roots, made absolute; without any the working directory is the only one. -/
def workspaceRoots (workingDirectory : Path) (a : Arguments) : List Path :=
  if a.workspaceRoots.isEmpty then [workingDirectory]
  else a.workspaceRoots.map (Path.absoluteFrom workingDirectory)

/-- The file of settings: the one given, or the one of the first workspace root. -/
def settingsFile? (host : Host m) (env : Environment) (roots : List Path) (a : Arguments) : m (Option Path) :=
  match a.config, roots with
  | some p, _ => pure (some p)
  | none, root :: _ => Settings.discover host env root
  | none, [] => pure none

def complaint (p : Path) (e : SettingsError) : String :=
  "jspdbg-dap: failed to load config from " ++ p.text ++ ": " ++ e.message ++ "; continuing with defaults"

def loadSettings (machine : Machine m Peer) (env : Environment) (roots : List Path) (a : Arguments) : m Settings := do
  match ← settingsFile? machine.host env roots a with
  | none => pure {}
  | some p => match ← Settings.loadFile machine.host p with
    | .ok settings => pure settings
    | .error e =>
      machine.complain (complaint p e)
      pure {}

/-! ## The log -/

/-- The line for an event. -/
def logLine (l : LoggingSettings) (timestamp : String) (e : Log.Event) : String :=
  if l.json then (e.object timestamp).render else e.line timestamp

/-- The host that logs as the settings say; `file` is the log file, if it is open. -/
def loggingHost (machine : Machine m Peer) (l : LoggingSettings) (env : Environment) (file : Option Path) : Host m :=
  let filter := Log.Filter.ofSettings l.level (env.bindings.lookup "RUST_LOG")
  { machine.host with
    log := fun e => do
      if filter.admits e then
        let line := logLine l (← machine.timestamp) e
        if l.stderr then machine.complain line
        match file with
        | some p => machine.appendLog p line
        | none => pure () }

/-- Opens the log and says so if that fails. -/
def openLogging (machine : Machine m Peer) (l : LoggingSettings) (env : Environment) : m (Host m) := do
  match l.file with
  | none => pure (loggingHost machine l env none)
  | some p =>
    if ← machine.openLog p then pure (loggingHost machine l env (some p))
    else
      let host := loggingHost machine l env none
      host.log (Log.Notice.logFileFailed p)
      pure host

/-! ## The adapter -/

def reachAdapter (machine : Machine m Peer) (a : Arguments) : m (Except Failure Peer) :=
  match a.connect, a.adapter with
  | some address, _ => do
    match ← machine.connect address with
    | .ok peer => pure (.ok peer)
    | .error cause => pure (.error ⟨"failed to connect to debug adapter at " ++ address, some cause⟩)
  | none, [] => pure (.error noAdapter)
  | none, program :: arguments => do
    match ← machine.spawn program arguments with
    | .ok peer => pure (.ok peer)
    | .error cause => pure (.error ⟨"failed to spawn debug adapter `" ++ program ++ "`", some cause⟩)

/-! ## The start and the end -/

/-- A started program. -/
structure Started (m : Type → Type) (Peer : Type) where
  host : Host m
  adapter : Peer
  session : Session

def start (machine : Machine m Peer) (env : Environment) (workingDirectory : Path) (a : Arguments) :
    m (Except Failure (Started m Peer)) := do
  let roots := workspaceRoots workingDirectory a
  let settings ← loadSettings machine env roots a
  let host ← openLogging machine settings.logging env
  host.log (Log.Notice.starting roots settings.debug.enabled)
  match ← reachAdapter machine a with
  | .ok adapter => pure (.ok ⟨host, adapter, .new settings.debug env roots⟩)
  | .error f => pure (.error f)

def failureOf : Relay.Ending → Option Failure
  | .closed => none
  | .failed e => some ⟨e.message, e.cause?⟩

/-- Complains of a failure, if there is one, and gives the exit code. -/
def conclude (machine : Machine m Peer) : Option Failure → m UInt32
  | none => pure 0
  | some f => do
    f.lines.forM machine.complain
    pure 1

/-- The whole program: starts, lets messages pass as `relay` does, and gives the exit code. -/
def run (machine : Machine m Peer) (relay : Started m Peer → m (Option Relay.Ending)) (env : Environment)
    (workingDirectory : Path) (a : Arguments) : m UInt32 := do
  match ← start machine env workingDirectory a with
  | .error f => conclude machine (some f)
  | .ok started =>
    let ending ← relay started
    conclude machine (ending.bind failureOf)

end TemplateDebug.Launch
