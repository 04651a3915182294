import ConsoleHost.BringUp
import ConsoleHost.Transport

/-!
Attaching one process to a session that this server hosts: its record, bring-up if it is the first, its
history buffer, foreground rights, primary handles, and the tokens under which it is published. If any of
it fails, nothing of the process is left behind.
-/

namespace ConsoleHost

namespace Session

/-- Ask for a history buffer. A process without one is served all the same. -/
def requestHistory (s : Session) (appName : String) (pid : UInt32) : Session :=
  { s with histories := s.histories.request appName pid }

/-- Bring the foreground right of every process to what the session grants now. -/
def spreadForeground (s : Session) : Session :=
  { s with processes := s.processes.setForeground s.grantsForeground }

/-- The calls that tell process control whose foreground right changes, in connection order. -/
def foregroundRequests (s : Session) : List ControlRequest :=
  (s.processes.differingFrom s.grantsForeground).map fun pid =>
    .setForeground pid s.grantsForeground

/-- Open a handle for a process with the access that every process gets, and note it in its record. -/
def openPrimary (s : Session) (pid : UInt32) (object : ObjectId)
    (note : HandleId → ProcessRecord → ProcessRecord) : Except Refusal HandleId × Session :=
  match s.registry.openHandle object .readWrite .all with
  | (.error refusal, registry) => (.error refusal, { s with registry := registry })
  | (.ok handle, registry) =>
    (.ok handle,
      { s with
        registry := registry
        processes := s.processes.update pid (note handle) })

/-- Open the primary handles of a process, input before output. Of a failure in between, the handle
opened first remains noted in the record. -/
def openPrimaries (s : Session) (pid : UInt32) :
    Except Refusal (HandleId × HandleId) × Session :=
  match s.input, s.activeOutput with
  | none, _ => (.error (.outOf "input endpoint missing"), s)
  | some _, none => (.error (.outOf "output buffer missing"), s)
  | some input, some output =>
    match s.openPrimary pid input fun h p => { p with input := some h } with
    | (.error refusal, s) => (.error refusal, s)
    | (.ok inputHandle, s) =>
      match s.openPrimary pid output fun h p => { p with output := some h } with
      | (.error refusal, s) => (.error refusal, s)
      | (.ok outputHandle, s) => (.ok (inputHandle, outputHandle), s)

end Session

/-- The tokens of a published connection, with the transport after it and the calls it took. -/
structure Publication where
  tokens : ConnectionTokens
  transport : Loopback
  calls : List Call

/-- Publish a connection: the process first, then its input and its output handle. -/
def Loopback.publishConnection (t : Loopback) (pid : UInt32) (input output : HandleId) :
    Publication :=
  let process := Published.process pid
  let withProcess := t.publish process
  let withInput := withProcess.publish (.handle input)
  { tokens :=
      { process := t.tokenFor process
        input := withProcess.tokenFor (.handle input)
        output := withInput.tokenFor (.handle output) }
    transport := withInput.publish (.handle output)
    calls :=
      [.publish process (t.tokenFor process),
       .publish (.handle input) (withProcess.tokenFor (.handle input)),
       .publish (.handle output) (withInput.tokenFor (.handle output))] }

namespace Attach

structure Outcome where
  result : Except Refusal ConnectionTokens
  session : Session
  transport : Loopback
  calls : List Call

/-- The steps after bring-up, for a process whose record is there. `told` control calls have been made
for the request. -/
def settle (env : Environment) (told : Nat) (session : Session) (transport : Loopback)
    (info : ConnectInfo) : Outcome :=
  let session := session.requestHistory info.appName info.pid
  let calls := env.controlCalls told session.foregroundRequests
  match session.spreadForeground.openPrimaries info.pid with
  | (.error refusal, session) => ⟨.error refusal, session, transport, calls⟩
  | (.ok (input, output), session) =>
    let published := transport.publishConnection info.pid input output
    { result := .ok published.tokens
      session :=
        { session with
          processes := session.processes.update info.pid fun p =>
            { p with token := some published.tokens.process } }
      transport := published.transport
      calls := calls ++ published.calls }

/-- The calls that announce a process: to process control if it is starting up, and to the accessibility
layer. -/
def announcements (info : ConnectInfo) : List ControlRequest :=
  if info.consoleApp then [.notifyApp info.pid] else []

/-- All steps for a process whose record is there. -/
def complete (env : Environment) (defaults : SessionDefaults) (headless : Bool) (issued : Nat)
    (session : Session) (transport : Loopback) (info : ConnectInfo) : Outcome :=
  let announced :=
    env.controlCalls 0 (announcements info) ++ env.accessibilityCalls .started info.pid
  let up := BringUp.run env defaults headless issued session info
  match up.result with
  | .error refusal => ⟨.error refusal, up.session, transport, announced ++ up.calls⟩
  | .ok () =>
    let settled := settle env (announcements info).length up.session transport info
    { settled with calls := announced ++ up.calls ++ settled.calls }

/-- Attach a process. The first process of a session that is not up becomes its root. -/
def run (env : Environment) (defaults : SessionDefaults) (headless : Bool) (issued : Nat)
    (session : Session) (transport : Loopback) (info : ConnectInfo) : Outcome :=
  let record := ProcessRecord.joining info.pid info.tid info.group (!session.initialized)
  match session.processes.join record with
  | .error refusal => ⟨.error refusal, session, transport, []⟩
  | .ok processes =>
    let outcome := complete env defaults headless issued { session with processes := processes }
      transport info
    match outcome.result with
    | .ok _ => outcome
    | .error _ => { outcome with session := outcome.session.rollback info.pid }

end Attach

end ConsoleHost
