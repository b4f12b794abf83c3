import TemplateDebug.Path.Basic
/-!
# Command lines

Options may come in any order; a value follows its option, or stands in the same word after an equals sign. The command
line of the adapter comes last, after two dashes. The first word that asks for help or for the version ends the
reading.
-/

namespace TemplateDebug.Launch

structure Arguments where
  config : Option Path := none
  workspaceRoots : List Path := []
  /-- Where an adapter listens that is already running. -/
  connect : Option String := none
  /-- The command line of an adapter to start. -/
  adapter : List String := []
  deriving DecidableEq, Repr

/-- What a command line asks for. -/
inductive Invocation where
  | run (arguments : Arguments)
  | explain
  | misuse
  deriving DecidableEq, Repr

/-- The options that take a value. -/
inductive ValueOption where
  | config
  | workspaceRoot
  | connect
  deriving DecidableEq, Repr

namespace ValueOption

def name : ValueOption → String
  | config => "--config"
  | workspaceRoot => "--workspace-root"
  | connect => "--connect"

def all : List ValueOption := [config, workspaceRoot, connect]

/-- The arguments with the value of an option. A path is not empty, and only workspace roots may be given again. -/
def assign? (a : Arguments) (value : String) : ValueOption → Option Arguments
  | config => if value.isEmpty || a.config.isSome then none else some { a with config := some ⟨value⟩ }
  | workspaceRoot =>
    if value.isEmpty then none else some { a with workspaceRoots := a.workspaceRoots ++ [⟨value⟩] }
  | connect => if a.connect.isSome then none else some { a with connect := some value }

end ValueOption

/-- A word of the command line, before the two dashes. -/
inductive Word where
  | option (o : ValueOption)
  | assigned (o : ValueOption) (value : String)
  | question
  | unknown
  deriving DecidableEq, Repr

/-- The text after `front`, if that is what it starts with. -/
def after? (front s : String) : Option String :=
  if front.toList.isPrefixOf s.toList then some (String.ofList (s.toList.drop front.length)) else none

def isQuestion (s : String) : Bool :=
  s == "--version" || s == "--help" || (after? "-V" s).isSome || (after? "-h" s).isSome

def Word.ofString (s : String) : Word :=
  match ValueOption.all.find? fun o => o.name == s with
  | some o => .option o
  | none => match ValueOption.all.findSome? fun o => (after? (o.name ++ "=") s).map (o, ·) with
    | some (o, value) => .assigned o value
    | none => if isQuestion s then .question else .unknown

/-- A word that cannot be the value of an option. -/
def isOptionLike (s : String) : Bool := s.toList.head? = some '-' && s != "-"

/-- Arguments that do not exclude each other. -/
def checked (a : Arguments) : Invocation := if a.connect.isSome && !a.adapter.isEmpty then .misuse else .run a

/-- Reads the words from the next one on. -/
def readWords (a : Arguments) : List String → Invocation
  | [] => checked a
  | "--" :: adapter => checked { a with adapter }
  | word :: rest => match Word.ofString word with
    | .question => .explain
    | .unknown => .misuse
    | .assigned o value => match o.assign? a value with
      | some a => readWords a rest
      | none => .misuse
    | .option o => match rest with
      | [] => .misuse
      | value :: rest =>
        if isOptionLike value then .misuse
        else match o.assign? a value with
          | some a => readWords a rest
          | none => .misuse

def Invocation.read (words : List String) : Invocation := readWords {} words

end TemplateDebug.Launch
