import ConsoleHost.History
import ConsoleHost.Process

/-!
The state of one console session: everything that requests change. Nothing here calls a collaborator.
-/

namespace ConsoleHost

structure Session where
  /-- Bring-up has run. -/
  initialized : Bool
  /-- The console window has the focus of the user interface. -/
  hasFocus : Bool
  /-- The session is hosted behind a pass-through pseudo-console. -/
  passThrough : Bool
  registry : Registry
  processes : ProcessTable
  histories : HistoryPool
  /-- The input endpoint, once the session is up. -/
  input : Option ObjectId
  /-- The output buffer that new handles are opened on. -/
  activeOutput : Option ObjectId
  title : String
  /-- The event that is signalled when input arrives. It is given away with the session. -/
  wakeEvent : Option RawHandle
  deriving DecidableEq

namespace Session

def fresh (histories : HistoryPool) (passThrough : Bool) (wakeEvent : Option RawHandle) : Session where
  initialized := false
  hasFocus := false
  passThrough := passThrough
  registry := .empty
  processes := .empty
  histories := histories
  input := none
  activeOutput := none
  title := ""
  wakeEvent := wakeEvent

/-- The flag word: bit 0 initialized, bit 1 focus, bit 2 pass-through. -/
def flagBits (s : Session) : Nat :=
  s.initialized.toNat + 2 * s.hasFocus.toNat + 4 * s.passThrough.toNat

/-- Processes may take the foreground while the window has the focus, and always behind a
pseudo-console. -/
def grantsForeground (s : Session) : Bool :=
  s.passThrough || s.hasFocus

def activeOutputSize? (s : Session) : Option (Size × Size) := do
  let object ← s.registry.object? (← s.activeOutput)
  match object.endpoint with
  | .output buffer window => some (buffer, window)
  | .input _ => none

def release? (s : Session) (pid : UInt32) : Option (ProcessRecord × Session) :=
  (s.processes.release s.registry pid).map fun (record, processes, registry) =>
    (record, { s with processes := processes, registry := registry })

def giveBackHistory (s : Session) (pid : UInt32) : Session :=
  { s with histories := s.histories.giveBack pid }

/-- Undo a connection that did not complete: history buffer, primary handles and record. -/
def rollback (s : Session) (pid : UInt32) : Session :=
  let s := s.giveBackHistory pid
  match s.release? pid with
  | none => s
  | some (_, released) => released

/-- Let go of an object, if there is one to let go of. -/
def unpin? (registry : Registry) : Option ObjectId → Registry
  | none => registry
  | some id => registry.unpin id

/-- Release every process and the endpoints of the session itself. -/
def teardown (s : Session) : Session :=
  let emptied := s.processes.pids.foldl rollback s
  { emptied with
    registry := unpin? (unpin? emptied.registry emptied.input) emptied.activeOutput
    input := none
    activeOutput := none
    wakeEvent := none
    initialized := false }

/-- What is left to do for the session after a process has gone. -/
inductive Departure where
  | othersRemain
  /-- The last process of an initialized session has left. -/
  | lastLeft
  deriving DecidableEq

/-- Remove a departing process with its history buffer and primary handles. The history buffer is
given back even if no such process is connected. -/
def depart (s : Session) (pid : UInt32) : Except Refusal Departure × Session :=
  let s := s.giveBackHistory pid
  match s.release? pid with
  | none => (.error (.notConnected pid), s)
  | some (_, s) =>
    (.ok (if s.processes.isEmpty && s.initialized then .lastLeft else .othersRemain), s)

end Session

end ConsoleHost
