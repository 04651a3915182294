import ConsoleHost.Environment.Bare
import ConsoleHost.Server
import ConsoleHost.System.StandIn

/-!
Collaborators that follow a script, to rehearse a server with. A script says which calls fail and what
the signal pipes carry; `Rehearsal.environment` is how the collaborators behave in the next request, and
`Rehearsal.after` is the script once the calls of that request have been made.
-/

namespace ConsoleHost

/-- What a registered handoff handler does. -/
inductive HandlerScript where
  /-- There are no handlers on this host at all. -/
  | absent
  | unregistered
  | refusing
  | accepting
  deriving DecidableEq

inductive ControlKind where
  | notifyApp
  | setForeground
  | endTask
  deriving DecidableEq

def ControlRequest.kind : ControlRequest → ControlKind
  | notifyApp _ => .notifyApp
  | setForeground .. => .setForeground
  | endTask .. => .endTask

inductive ControlScript where
  /-- Takes notifications without a record, and cannot end tasks. -/
  | silent
  /-- Records every call, and fails those of some kinds. -/
  | recording (failing : List ControlKind)
  deriving DecidableEq

inductive WindowScript where
  /-- Never shows a window. -/
  | suppressed
  /-- Records every call, and may fail. -/
  | recording (failing : Bool)
  deriving DecidableEq

inductive ApiScript where
  /-- Implements nothing. -/
  | unsupported
  /-- Answers the number of a call and its input. -/
  | echoing
  /-- Never answers at once. -/
  | deferring
  deriving DecidableEq

structure SystemScript where
  interactive : Bool
  failEvent : Bool
  failPipe : Bool
  failDuplicate : Bool
  /-- What the pipes carry that are still to be made. Later ones carry nothing. -/
  signals : List ByteSource

inductive SystemChoice where
  | scripted (script : SystemScript)
  | standIn

structure Rehearsal where
  system : SystemChoice
  handler : HandlerScript
  control : ControlScript
  /-- The accessibility layer: none, or whether it is broken. -/
  brokenAccessibility : Option Bool
  window : WindowScript
  /-- Removing a process always fails and changes nothing. -/
  stuckDeparture : Bool
  api : ApiScript
  failRelay : Bool
  /-- How many handles have been issued. -/
  issued : Nat

def failingIf {ε : Type} (fails : Bool) (failure : ε) : Except ε Unit :=
  if fails then .error failure else .ok ()

namespace SystemScript

/-- The handle issued after so many others: they start at 0x1000 and lie four apart. -/
def handle (issued : Nat) : RawHandle := ⟨UInt64.ofNat (0x1000 + 4 * issued)⟩

def system (s : SystemScript) (issued : Nat) : System where
  interactive := s.interactive
  issue k := handle (issued + k)
  createEvent := failingIf s.failEvent (.failed "create event" "no events")
  createPipe :=
    if s.failPipe then .error (.failed "create pipe" "no pipes")
    else .ok (s.signals.headD (.ofBytes []))
  duplicateProcess := failingIf s.failDuplicate (.failed "duplicate process handle" "access denied")

end SystemScript

/-- Find the handler that a script describes. -/
def HandlerScript.activate (s : HandlerScript) (target : Clsid) : Except String Unit :=
  match s with
  | absent => Environment.noHandler target
  | unregistered => .error "class not registered"
  | refusing | accepting => .ok ()

def HandlerScript.takeOver (s : HandlerScript) : Except String Unit :=
  failingIf (s ≠ accepting) "E_FAIL"

def ControlScript.answer (s : ControlScript) (request : ControlRequest) : Except ServiceError Unit :=
  match s with
  | silent => Environment.uncontrolled request
  | recording kinds => failingIf (request.kind ∈ kinds) (.unavailable "process control")

/-- An API layer that implements nothing. It leaves the session alone. -/
def ApiScript.answer (s : ApiScript) (message : Message) : Option Reply :=
  match s, message.request with
  | deferring, _ => none
  | echoing, .api call =>
    some { message.reply .success with information := call.number.toNat, payload := call.input }
  | _, _ => some (Environment.notImplemented message)

namespace Rehearsal

/-- How the collaborators behave in the next request. -/
def environment (r : Rehearsal) : Environment where
  system :=
    match r.system with
    | .scripted script => script.system r.issued
    | .standIn => StandIn.system ⟨r.issued⟩
  activate := r.handler.activate
  takeOver _ := r.handler.takeOver
  startRelay := failingIf r.failRelay "thread limit reached"
  control _ request := r.control.answer request
  accessibility := r.brokenAccessibility.map fun broken _ _ =>
    failingIf broken (.unavailable "accessibility")
  createWindow _ _ := failingIf (r.window matches .recording true) (.unavailable "desktop")
  depart session pid :=
    if r.stuckDeparture then (.error (.notConnected pid), session) else session.depart pid
  answer session message := (r.api.answer message, session)

/-- How many signal pipes were made by calls. -/
def pipesMade (calls : List Call) : Nat :=
  calls.countP fun call => call matches .createPipe (some _)

def after (r : Rehearsal) (calls : List Call) : Rehearsal :=
  { r with
    issued := r.issued + (Call.issued calls).length
    system :=
      match r.system with
      | .scripted script =>
        .scripted { script with signals := script.signals.drop (pipesMade calls) }
      | .standIn => .standIn }

/-- Whether a collaborator keeps a record of a call. -/
def records (r : Rehearsal) (call : Call) : Bool :=
  match call with
  | .createEvent _ | .createPipe _ | .duplicateProcess _ | .waitForExit _ | .close _ =>
    (r.system matches .scripted _)
  | .control .. => (r.control matches .recording _)
  | .createWindow .. => (r.window matches .recording _)
  | .serverHandle _ | .startRelay _ | .api _ => false
  | _ => true

end Rehearsal

end ConsoleHost
