import TemplateDebug.Dap.Framing
import TemplateDebug.Session.Messages
/-!
# The relay

The relay stands between a client and an adapter. What arrives from either side is handled one by one, in the order of
arrival: a message passes the session and goes to the other side, and the end of a stream ends the relay.
-/

namespace TemplateDebug.Relay

inductive Side where
  | client
  | adapter
  deriving DecidableEq, Repr

namespace Side

def name : Side → String
  | client => "client"
  | adapter => "adapter"

def opposite : Side → Side
  | client => adapter
  | adapter => client

end Side

/-- How a stream ends: between two frames, or by an error. -/
inductive Ending where
  | closed
  | failed (error : Dap.FrameError)
  deriving DecidableEq, Repr

/-- What arrives from a side. -/
inductive Arrival where
  | message (side : Side) (message : Json)
  | ended (side : Side) (ending : Ending)
  deriving DecidableEq, Repr

/-- What the relay does about an arrival. -/
inductive Action where
  | forward (receiver : Side) (message : Json)
  | finish (ending : Ending)
  deriving DecidableEq, Repr

variable {m : Type → Type} [Monad m]

/-- A message from a side, as the other side gets it. -/
def pass (host : Host m) (side : Side) (message : Json) (s : Session) : m (Json × Session) :=
  match side with
  | .client => s.fromClient host message
  | .adapter => s.fromAdapter host message

def endingNotice (side : Side) : Ending → Log.Event
  | .closed => Log.Notice.streamClosed side.name
  | .failed e => Log.Notice.readMessageFailed side.name e.message

def handle (host : Host m) (arrival : Arrival) (s : Session) : m (Action × Session) :=
  match arrival with
  | .message side message => do
    let (message, s) ← pass host side message s
    pure (.forward side.opposite message, s)
  | .ended side ending => do
    host.log (endingNotice side ending)
    pure (.finish ending, s)

/-- What a run of the relay has done: the messages forwarded, each with the side it went to, and how it ended, if it
did. -/
structure Run where
  forwarded : List (Side × Json)
  ending : Option Ending
  session : Session

/-- Handles arrivals until one ends the relay. -/
def run (host : Host m) (s : Session) : List Arrival → m Run
  | [] => pure ⟨[], none, s⟩
  | arrival :: rest => do
    let (action, s) ← handle host arrival s
    match action with
    | .forward receiver message =>
      let r ← run host s rest
      pure { r with forwarded := (receiver, message) :: r.forwarded }
    | .finish ending => pure ⟨[], some ending, s⟩

/-- The next arrival from a side. -/
def nextArrival (side : Side) (input : Dap.Input) : Arrival :=
  match Dap.readMessage input with
  | .ok (some (message, _)) => .message side message
  | .ok none => .ended side .closed
  | .error e => .ended side (.failed e)

/-- What arrives from a side whose whole stream is known. -/
def arrivals (side : Side) (input : Dap.Input) : List Arrival :=
  let (messages, fault) := Dap.readAll input
  messages.map (.message side) ++ [.ended side (match fault with | some e => .failed e | none => .closed)]

end TemplateDebug.Relay
