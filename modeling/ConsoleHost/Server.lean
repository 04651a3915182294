import ConsoleHost.Attach
import ConsoleHost.Handoff.Negotiation
import ConsoleHost.Handoff.Policy
import ConsoleHost.Telemetry

/-!
The connection server. `Server.dispatch` serves one request in a given environment, and
`Server.shutdown` releases the session. Both answer the server afterwards together with every call of a
collaborator that they made, in order.
-/

namespace ConsoleHost

structure Options where
  launch : Handoff.Launch
  /-- The registered handoff handler. -/
  target : Option Clsid
  defaults : SessionDefaults
  deriving DecidableEq

structure Server where
  options : Options
  session : Session
  transport : Loopback
  telemetry : Telemetry
  /-- Hosting has moved elsewhere, the last process has left, or the server was shut down. -/
  shuttingDown : Bool
  deriving DecidableEq

structure Served where
  server : Server
  completion : Completion
  calls : List Call
  deriving DecidableEq

/-- Open the handle that a create request asks for. A buffer that is created for a handle which is then
refused is let go of again. -/
def Session.openObject (s : Session) (request : CreateRequest) : Except Refusal HandleId × Session :=
  if s.initialized = false then (.error (.invalidRequest "session is not initialized"), s)
  else
    match request.resolve with
    | .error refusal => (.error refusal, s)
    | .ok .newOutput =>
      if request.bufferFlags ≠ CreateRequest.textMode then
        (.error (.invalidRequest "only text-mode buffers are supported"), s)
      else
        match s.activeOutputSize? with
        | none => (.error (.invalidRequest "no active output buffer"), s)
        | some (buffer, window) =>
          let object := s.registry.nextObject
          let created := s.registry.create (.output buffer window) false
          match created.openHandle object request.access request.share with
          | (.error refusal, registry) => (.error refusal, { s with registry := registry.unpin object })
          | (.ok handle, registry) => (.ok handle, { s with registry := registry })
    | .ok type =>
      let endpoint :=
        match type with
        | .currentInput => s.input
        | .currentOutput => s.activeOutput
        | _ => none
      match endpoint with
      | none => (.error (.invalidRequest "endpoint does not exist"), s)
      | some object =>
        let opened := s.registry.openHandle object request.access request.share
        (opened.1, { s with registry := opened.2 })

namespace Server

/-- Start a server in an environment: its wake event is created first, and without one there is no
server. -/
def start (env : Environment) (options : Options) (histories : HistoryPool) (transport : Loopback) :
    Except SystemError Server × List Call :=
  match env.system.createEvent with
  | .error failure => (.error failure, [.createEvent none])
  | .ok () =>
    let event := env.system.issue 0
    (.ok
      { options := options
        session := .fresh histories options.launch.headless (some event)
        transport := transport
        telemetry := .empty
        shuttingDown := false },
      [.createEvent (some event)])

/-- Serve a create request. A handle whose reply cannot be delivered is closed again. -/
def create (server : Server) (message : Message) (request : CreateRequest) : Served :=
  match server.session.openObject request with
  | (.error refusal, session) =>
    ⟨{ server with session := session }, .reply (message.reply refusal.status), []⟩
  | (.ok handle, opened) =>
    let published := Published.handle handle
    let token := server.transport.tokenFor published
    let transport := server.transport.publish published
    let reply := { message.reply .success with information := token }
    let session :=
      if transport.delivers then opened
      else { opened with registry := opened.registry.discardHandle handle }
    { server := { server with session := session, transport := transport.complete reply }
      completion := .completed
      calls := [.publish published token, .complete reply transport.delivers] }

def close (server : Server) (message : Message) : Served :=
  let (result, registry) := server.session.registry.closeHandle message.descriptor.handle
  let status :=
    match result with
    | .error refusal => refusal.status
    | .ok _ => .success
  { server := { server with session := { server.session with registry := registry } }
    completion := .reply (message.reply status)
    calls := [] }

/-- Host a process here, after `issued` handles have been issued for its request. A connection whose
reply cannot be delivered is undone. -/
def hostLocally (env : Environment) (server : Server) (issued : Nat) (message : Message)
    (info : ConnectInfo) : Served :=
  let attached := Attach.run env server.options.defaults server.options.launch.headless issued
    server.session server.transport info
  match attached.result with
  | .error refusal =>
    { server := { server with session := attached.session, transport := attached.transport }
      completion := .reply (message.reply refusal.status)
      calls := attached.calls }
  | .ok tokens =>
    let reply :=
      { message.reply .success with
        information := ConnectionTokens.size
        payload := tokens.toBytes }
    let delivered := attached.transport.delivers
    { server :=
        { server with
          session := if delivered then attached.session else attached.session.rollback info.pid
          transport := attached.transport.complete reply }
      completion := .completed
      calls := attached.calls ++ [.complete reply delivered] }

/-- The handler that a connection is offered to, if the policy allows it. -/
def handoffTarget? (env : Environment) (server : Server) (info : ConnectInfo) : Option Clsid :=
  let conditions := Handoff.Conditions.forConnect info server.options.launch
    env.system.interactive server.session.initialized server.options.target.isSome
  match conditions.decline? with
  | none => server.options.target
  | some _ => none

/-- Serve a connect request: hand the session over where the policy allows it and the handler takes it,
and host the process here otherwise. -/
def connect (env : Environment) (server : Server) (message : Message) (request : ConnectMessage) :
    Served :=
  let server := { server with telemetry := server.telemetry.count .attachConsole }
  match ConnectInfo.ofMessage message.descriptor request with
  | .error refusal => ⟨server, .reply (message.reply refusal.status), []⟩
  | .ok info =>
    match server.handoffTarget? env info with
    | none => server.hostLocally env 0 message info
    | some target =>
      let attempt := Handoff.attempt env server.transport.serverHandle target message.descriptor
        server.session
      match attempt.outcome with
      | .ok representative =>
        { server :=
            { server with
              session := attempt.session
              telemetry := server.telemetry.report (.succeeded target)
              shuttingDown := true }
          completion := .handedOff
          calls := attempt.calls ++ [.waitForExit representative, .close representative] }
      | .error failure =>
        let server :=
          { server with
            session := attempt.session
            telemetry := server.telemetry.report (.failed target failure) }
        let served := server.hostLocally env (Call.issued attempt.calls).length message info
        { served with calls := attempt.calls ++ served.calls }

/-- Serve a disconnect request. A token that addresses nobody is answered with success as well. -/
def disconnect (env : Environment) (server : Server) (message : Message) : Served :=
  let server := { server with telemetry := server.telemetry.count .freeConsole }
  let completion := Completion.reply (message.reply .success)
  match server.session.processes.findByToken? message.descriptor.processToken with
  | none => ⟨server, completion, []⟩
  | some record =>
    let (departure, session) := env.depart server.session record.pid
    { server :=
        { server with
          session := session
          shuttingDown := server.shuttingDown || departure matches .ok .lastLeft }
      completion := completion
      calls := env.accessibilityCalls .ended record.pid }

/-- Pass a request on to the API layer, if its token addresses a process. -/
def api (env : Environment) (server : Server) (message : Message) : Served :=
  match server.session.processes.findByToken? message.descriptor.processToken with
  | none => ⟨server, .reply (message.reply .invalidHandle), []⟩
  | some _ =>
    let (reply, session) := env.answer server.session message
    { server := { server with session := session }
      completion :=
        match reply with
        | some reply => .reply reply
        | none => .pending
      calls := [.api message] }

def dispatch (env : Environment) (server : Server) (message : Message) : Served :=
  match message.request with
  | .create request => server.create message request
  | .close => server.close message
  | .connect request => server.connect env message request
  | .disconnect => server.disconnect env message
  | .api _ => server.api env message

/-- Release the session. The wake event is closed if it is held. -/
def shutdown (server : Server) : Server × List Call :=
  ({ server with session := server.session.teardown, shuttingDown := true },
    server.session.wakeEvent.toList.map Call.close)

end Server

end ConsoleHost
