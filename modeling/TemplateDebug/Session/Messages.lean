import TemplateDebug.Session.Breakpoints
import TemplateDebug.Session.StackTrace
/-!
# The messages of a session

Messages pass between a client and an adapter. Requests that set breakpoints are redirected on their way to the
adapter; their responses and stack traces are mapped back on their way to the client. Every other message passes
untouched, and so does one that cannot be mapped.
-/

namespace TemplateDebug

structure Session where
  settings : DebugSettings
  caches : Session.Caches
  /-- Redirected requests without a response yet. -/
  pending : List Session.Pending
  deriving Repr

namespace Session

def setBreakpoints : String := "setBreakpoints"

def stackTrace : String := "stackTrace"

def new (settings : DebugSettings) (env : Environment) (roots : List Path) : Session :=
  ⟨settings, .new settings env roots, []⟩

/-- Applies new settings; pending requests stay. -/
def updateSettings (s : Session) (settings : DebugSettings) (env : Environment) : Session :=
  { s with settings, caches := s.caches.reconfigure settings env }

/-- The pending requests without the one under a sequence number. -/
def without (pending : List Pending) (requestSeq : Int) : List Pending :=
  pending.filter fun p => p.requestSeq ≠ requestSeq

/-- What becomes of a message on its way. -/
inductive Route where
  | redirect
  | mapBack (requestSeq : Int) (success : Bool)
  | showTrace
  | pass
  deriving DecidableEq, Repr

def clientRoute (message : Json) : Route :=
  match Dap.header? message with
  | some (.request command) => if command = setBreakpoints then .redirect else .pass
  | _ => .pass

def adapterRoute (message : Json) : Route :=
  match Dap.header? message with
  | some (.response requestSeq command success) =>
    if command = setBreakpoints then .mapBack requestSeq success
    else if command = stackTrace && success then .showTrace
    else .pass
  | _ => .pass

variable {m : Type → Type} [Monad m]

/-- The message of an outcome: a faulty one goes on as it came. -/
def settle (host : Host m) (s : Session) (what : String) (message : Json) : Except Fault Json → m Json
  | .ok mapped => pure mapped
  | .error e => do
    host.log (Log.Notice.skipping s.settings.verbose what e.message)
    pure message

/-- A request that sets breakpoints, redirected if it is for a template. -/
def redirectRequest (host : Host m) (message : Json) (s : Session) : m (Json × Session) :=
  match requestParts message with
  | .error e => do pure (← s.settle host "setBreakpoints request" message (.error e), s)
  | .ok (requestSeq, arguments) => do
    let (redirected, caches) ← redirect host requestSeq arguments message s.caches
    match redirected with
    | none => pure (message, { s with caches })
    | some (message, p) => pure (message, { s with caches, pending := p :: without s.pending requestSeq })

/-- A response that reports breakpoints, mapped back if its request was redirected; that request is then done, however
the response went. -/
def answerRequest (host : Host m) (requestSeq : Int) (success : Bool) (message : Json) (s : Session) :
    m (Json × Session) :=
  match s.pending.find? fun p => p.requestSeq = requestSeq with
  | none => pure (message, s)
  | some p => do
    let s := { s with pending := without s.pending requestSeq }
    if success then
      let (outcome, caches) ← answer host p message s.caches
      pure (← s.settle host "setBreakpoints response" message outcome, { s with caches })
    else pure (message, s)

/-- A stack trace, shown in templates. -/
def mapTrace (host : Host m) (message : Json) (s : Session) : m (Json × Session) := do
  let (outcome, caches) ← showTrace host message s.caches
  pure (← s.settle host "stackTrace response" message outcome, { s with caches })

def follow (host : Host m) (message : Json) (s : Session) : Route → m (Json × Session)
  | .redirect => s.redirectRequest host message
  | .mapBack requestSeq success => s.answerRequest host requestSeq success message
  | .showTrace => s.mapTrace host message
  | .pass => pure (message, s)

/-- A message from the client, as the adapter gets it. -/
def fromClient (host : Host m) (message : Json) (s : Session) : m (Json × Session) :=
  if s.settings.enabled then s.follow host message (clientRoute message) else pure (message, s)

/-- A message from the adapter, as the client gets it. -/
def fromAdapter (host : Host m) (message : Json) (s : Session) : m (Json × Session) :=
  if s.settings.enabled then s.follow host message (adapterRoute message) else pure (message, s)

end Session

end TemplateDebug
