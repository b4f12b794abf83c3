import TemplateDebug.Log.Event
import TemplateDebug.Text.Case
import TemplateDebug.Text.CharClass
import TemplateDebug.Text.Letters
import TemplateDebug.Text.Split
import TemplateDebug.Text.Word
/-!
# Log filters

A filter is a list of directives. A directive admits events up to a level, for the targets that start with its own or
for all targets. The directive with the longest target decides. Directives are written with commas between, as a level
or as a target with an equals sign and a level.
-/

namespace TemplateDebug.Log

/-- The most verbose level that passes; none lets nothing pass. -/
abbrev Threshold := Option Level

def Threshold.name : Threshold → String
  | none => "off"
  | some .error => "error"
  | some .warn => "warn"
  | some .info => "info"
  | some .debug => "debug"
  | some .trace => "trace"

/-- The thresholds, each at the place of its number. -/
def thresholds : List Threshold := [none, some .error, some .warn, some .info, some .debug, some .trace]

def Threshold.admits (t : Threshold) (level : Level) : Bool := t.any fun l => level.rank ≤ l.rank

/-- The threshold that a text names, by number or by name in any case. -/
def threshold? (s : String) : Option Threshold :=
  match Text.word s.toList with
  | .ok n => thresholds[n]?
  | .error _ => thresholds.find? fun t => Text.sameIgnoringAsciiCase t.name s

structure Directive where
  target : Option String
  threshold : Threshold
  deriving DecidableEq, Repr

namespace Directive

def matchesTarget (d : Directive) (target : String) : Bool := d.target.all fun t => t.toList.isPrefixOf target.toList

/-- The directive stands before another: longer targets before shorter ones, of equal length the greater before the
smaller, and no target last. -/
def before (d e : Directive) : Bool :=
  match d.target, e.target with
  | some a, some b => b.utf8ByteSize < a.utf8ByteSize || (a.utf8ByteSize == b.utf8ByteSize && decide (b < a))
  | some _, none => true
  | none, _ => false

def text (d : Directive) : String :=
  match d.target with
  | some t => t ++ "=" ++ d.threshold.name
  | none => d.threshold.name

def mayStart (c : Char) : Bool := c = '-' || c = ':' || c = '_' || Text.isAlphanumeric c

/-- A level, or else a target at the lowest level. -/
def ofWord (s : String) : Directive :=
  match threshold? s with
  | some t => ⟨none, t⟩
  | none => ⟨some s, some .trace⟩

/-- A target with a level; an empty level is the lowest. -/
def ofPair? (target level : String) : Option Directive :=
  if level.isEmpty then some ⟨some target, some .trace⟩ else (threshold? level).map fun t => ⟨some target, t⟩

/-- The directive a piece of a text says. A target with a level starts the piece; a word may follow blanks, which are
then part of it. -/
def ofPiece? (piece : List Char) : Option Directive :=
  if (Text.dropBlanks piece).head?.any mayStart then
    match piece.dropWhile (· ≠ '=') with
    | [] => some (ofWord (String.ofList piece))
    | _ :: level =>
      if piece.head?.any Text.isBlank then none
      else ofPair? (String.ofList (piece.takeWhile (· ≠ '='))) (String.ofList level)
  else none

end Directive

structure Filter where
  directives : List Directive
  deriving DecidableEq, Repr

namespace Filter

def insertDirective (d : Directive) : List Directive → List Directive
  | [] => [d]
  | e :: rest => if d.before e then d :: e :: rest else e :: insertDirective d rest

/-- Adds a directive in the place of the one for the same target. -/
def insert (f : Filter) (d : Directive) : Filter :=
  ⟨insertDirective d (f.directives.filter fun e => e.target ≠ d.target)⟩

/-- The pieces of a text between commas, without the empty ones. -/
def pieces (s : String) : List (List Char) := (Text.splitParts (· = ',') s.toList).filter (!·.isEmpty)

/-- The filter of a text in which every piece is a directive. -/
def parse? (s : String) : Option Filter :=
  ((pieces s).mapM Directive.ofPiece?).map fun ds => ds.foldl insert ⟨[]⟩

def render (f : Filter) : String := String.intercalate "," (f.directives.map Directive.text)

/-- An event passes if the first directive for its target admits its level; without one it does not. -/
def admits (f : Filter) (e : Event) : Bool :=
  (f.directives.find? fun d => d.matchesTarget e.target).any fun d => d.threshold.admits e.level

/-! ## The filter of the settings -/

/-- The names of levels that settings may give in any case. -/
def levelNames : List String := ["trace", "debug", "info", "warn", "error"]

/-- The level of the settings as directives. -/
def directivesOfLevel (level : String) : String :=
  let level := String.ofList (Text.trim level.toList)
  if level.isEmpty then "info"
  else if Text.sameIgnoringAsciiCase level "warning" then "warn"
  else (levelNames.find? fun n => Text.sameIgnoringAsciiCase n level).getD level

/-- The filter of a level and of further directives from the environment: both together if they can be read so, else
the level alone, else `info`. -/
def ofSettings (level : String) (environment : Option String) : Filter :=
  let configured := directivesOfLevel level
  let further := (environment.map fun s => String.ofList (Text.trim s.toList)).filter (!·.isEmpty)
  let both := further.bind fun s => parse? (configured ++ "," ++ s)
  ((both.or (parse? configured)).getD ⟨[⟨none, some .info⟩]⟩)

end Filter

end TemplateDebug.Log
