import ConsoleHost.Proofs.Handoff
import ConsoleHost.Proofs.Session.Attach
import ConsoleHost.Server

/-! What a connect request can come to: a refusal of its message, local hosting, a session that is handed
over, or local hosting after a handoff that failed. -/

namespace ConsoleHost

/-- An attempt to hand a session over changes at most its wake event. -/
theorem Handoff.session_of_attempt {env : Environment} {serverHandle : Option RawHandle}
    {target : Clsid} {descriptor : Descriptor} {s : Session} {result : Attempt}
    (h : attempt env serverHandle target descriptor s = result) :
    result.session = s ∨ result.session = { s with wakeEvent := none } := by
  cases attempts_of_attempt h with
  | failed => exact .inl rfl
  | unrelayed => exact .inr rfl
  | relayed => exact .inr rfl

/-- A handoff attempt leaves the records alone. -/
theorem Handoff.processes_of_attempt {env : Environment} {serverHandle : Option RawHandle}
    {target : Clsid} {descriptor : Descriptor} {s : Session} {result : Attempt}
    (h : attempt env serverHandle target descriptor s = result) :
    result.session.processes = s.processes := by
  rcases session_of_attempt h with hSame | hGiven
  · rw [hSame]
  · rw [hGiven]

/-- It leaves the registry alone. -/
theorem Handoff.registry_of_attempt {env : Environment} {serverHandle : Option RawHandle} {target : Clsid}
    {descriptor : Descriptor} {s : Session} {result : Attempt}
    (h : attempt env serverHandle target descriptor s = result) : result.session.registry = s.registry := by
  rcases session_of_attempt h with hSame | hGiven
  · rw [hSame]
  · rw [hGiven]

/-- It leaves the history buffers alone. -/
theorem Handoff.histories_of_attempt {env : Environment} {serverHandle : Option RawHandle} {target : Clsid}
    {descriptor : Descriptor} {s : Session} {result : Attempt}
    (h : attempt env serverHandle target descriptor s = result) : result.session.histories = s.histories := by
  rcases session_of_attempt h with hSame | hGiven
  · rw [hSame]
  · rw [hGiven]

theorem Handoff.initialized_of_attempt {env : Environment} {serverHandle : Option RawHandle} {target : Clsid}
    {descriptor : Descriptor} {s : Session} {result : Attempt}
    (h : attempt env serverHandle target descriptor s = result) :
    result.session.initialized = s.initialized := by
  rcases session_of_attempt h with hSame | hGiven
  · rw [hSame]
  · rw [hGiven]

namespace Server

variable {env : Environment} {server : Server} {message : Message} {request : ConnectMessage}

def counted (server : Server) : Server :=
  { server with telemetry := server.telemetry.count .attachConsole }

def declined (server : Server) (target : Clsid) (failure : Handoff.Error) (session : Session) : Server :=
  { server.counted with
    session := session
    telemetry := server.counted.telemetry.report (.failed target failure) }

def relieved (server : Server) (target : Clsid) (session : Session) : Server :=
  { server.counted with
    session := session
    telemetry := server.counted.telemetry.report (.succeeded target)
    shuttingDown := true }

/-- Everything that a connect request can come to. -/
inductive Connects (env : Environment) (server : Server) (message : Message) (request : ConnectMessage) :
    Served → Prop where
  | invalid {refusal : Refusal}
      (hInfo : ConnectInfo.ofMessage message.descriptor request = .error refusal) :
      Connects env server message request
        ⟨server.counted, .reply (message.reply refusal.status), []⟩
  | hosted {info : ConnectInfo} (hInfo : ConnectInfo.ofMessage message.descriptor request = .ok info)
      (hTarget : server.handoffTarget? env info = none) :
      Connects env server message request (server.counted.hostLocally env 0 message info)
  | handedOver {info : ConnectInfo} {target : Clsid} {representative : RawHandle} {session : Session}
      {calls : List Call} (hInfo : ConnectInfo.ofMessage message.descriptor request = .ok info)
      (hTarget : server.handoffTarget? env info = some target)
      (hAttempt : Handoff.attempt env server.transport.serverHandle target message.descriptor
        server.session = ⟨.ok representative, session, calls⟩) :
      Connects env server message request
        ⟨server.relieved target session, .handedOff,
          calls ++ [.waitForExit representative, .close representative]⟩
  | fellBack {info : ConnectInfo} {target : Clsid} {failure : Handoff.Error} {session : Session}
      {calls : List Call} {served : Served}
      (hInfo : ConnectInfo.ofMessage message.descriptor request = .ok info)
      (hTarget : server.handoffTarget? env info = some target)
      (hAttempt : Handoff.attempt env server.transport.serverHandle target message.descriptor
        server.session = ⟨.error failure, session, calls⟩)
      (hServed : (server.declined target failure session).hostLocally env (Call.issued calls).length
        message info = served) :
      Connects env server message request { served with calls := calls ++ served.calls }

/-- A connect message that is not valid is refused before anything happens. -/
theorem connect_of_invalid {refusal : Refusal}
    (hInfo : ConnectInfo.ofMessage message.descriptor request = .error refusal) :
    server.connect env message request = ⟨server.counted, .reply (message.reply refusal.status), []⟩ := by
  simp only [connect, hInfo]
  rfl

section

variable {info : ConnectInfo} {target : Clsid} {session : Session} {calls : List Call}
  (hInfo : ConnectInfo.ofMessage message.descriptor request = .ok info)

include hInfo

/-- A connect that is not offered is hosted here. -/
theorem connect_of_hosted (hTarget : server.handoffTarget? env info = none) :
    server.connect env message request = server.counted.hostLocally env 0 message info := by
  have hCounted : server.counted.handoffTarget? env info = none := hTarget
  rw [counted] at hCounted
  simp only [connect, hInfo, hCounted]
  rfl

variable (hTarget : server.handoffTarget? env info = some target)

include hTarget

/-- A connect that is handed over waits for the representative and closes it. -/
theorem connect_of_handedOver {representative : RawHandle}
    (hAttempt : Handoff.attempt env server.transport.serverHandle target message.descriptor
      server.session = ⟨.ok representative, session, calls⟩) :
    server.connect env message request =
      ⟨server.relieved target session, .handedOff,
        calls ++ [.waitForExit representative, .close representative]⟩ := by
  have hCounted : server.counted.handoffTarget? env info = some target := hTarget
  rw [counted] at hCounted
  simp only [connect, hInfo, hCounted, hAttempt]
  rfl

/-- A connect whose handoff fails is hosted here, after the calls of the attempt. -/
theorem connect_of_fellBack {failure : Handoff.Error}
    (hAttempt : Handoff.attempt env server.transport.serverHandle target message.descriptor
      server.session = ⟨.error failure, session, calls⟩) :
    server.connect env message request =
      let served := (server.declined target failure session).hostLocally env (Call.issued calls).length
        message info
      { served with calls := calls ++ served.calls } := by
  have hCounted : server.counted.handoffTarget? env info = some target := hTarget
  rw [counted] at hCounted
  simp only [connect, hInfo, hCounted, hAttempt]
  rfl

end

theorem connects_connect :
    Connects env server message request (server.connect env message request) := by
  cases hInfo : ConnectInfo.ofMessage message.descriptor request with
  | error refusal =>
      rw [connect_of_invalid hInfo]
      exact .invalid hInfo
  | ok info =>
      cases hTarget : server.handoffTarget? env info with
      | none =>
          rw [connect_of_hosted hInfo hTarget]
          exact .hosted hInfo hTarget
      | some target =>
          rcases hAttempt : Handoff.attempt env server.transport.serverHandle target
            message.descriptor server.session with ⟨failure | representative, session, calls⟩
          · rw [connect_of_fellBack hInfo hTarget hAttempt]
            exact .fellBack hInfo hTarget hAttempt rfl
          · rw [connect_of_handedOver hInfo hTarget hAttempt]
            exact .handedOver hInfo hTarget hAttempt

/-- A connect request ends in one of the listed ways. -/
theorem connects_dispatch (hRequest : message.request = .connect request) :
    Connects env server message request (server.dispatch env message) := by
  simp only [dispatch, hRequest]
  exact connects_connect

/-- Only a session that is down is offered to a handler. -/
theorem initialized_of_handoffTarget? {info : ConnectInfo} {target : Clsid}
    (h : server.handoffTarget? env info = some target) : server.session.initialized = false := by
  simp only [handoffTarget?] at h
  split at h
  · next hNone =>
      have hConditions := (Handoff.Conditions.decline?_eq_none_iff _).1 hNone
      exact congrArg (·.sessionInitialized) hConditions
  · cases h

def connectedReply (message : Message) (tokens : ConnectionTokens) : Reply :=
  { message.reply .success with information := ConnectionTokens.size, payload := tokens.toBytes }

/-- Everything that hosting a process can come to. -/
inductive Hosts (env : Environment) (server : Server) (issued : Nat) (message : Message)
    (info : ConnectInfo) : Served → Prop where
  | refused {refusal : Refusal} {session : Session} {transport : Loopback} {calls : List Call}
      (hAttach : Attach.run env server.options.defaults server.options.launch.headless issued
        server.session server.transport info = ⟨.error refusal, session, transport, calls⟩) :
      Hosts env server issued message info
        ⟨{ server with session := session, transport := transport },
          .reply (message.reply refusal.status), calls⟩
  | delivered {tokens : ConnectionTokens} {session : Session} {transport : Loopback}
      {calls : List Call}
      (hAttach : Attach.run env server.options.defaults server.options.launch.headless issued
        server.session server.transport info = ⟨.ok tokens, session, transport, calls⟩)
      (hDelivers : transport.delivers = true) :
      Hosts env server issued message info
        ⟨{ server with
            session := session
            transport := transport.complete (connectedReply message tokens) },
          .completed, calls ++ [.complete (connectedReply message tokens) true]⟩
  | undelivered {tokens : ConnectionTokens} {session : Session} {transport : Loopback}
      {calls : List Call}
      (hAttach : Attach.run env server.options.defaults server.options.launch.headless issued
        server.session server.transport info = ⟨.ok tokens, session, transport, calls⟩)
      (hDelivers : transport.delivers = false) :
      Hosts env server issued message info
        ⟨{ server with
            session := session.rollback info.pid
            transport := transport.complete (connectedReply message tokens) },
          .completed, calls ++ [.complete (connectedReply message tokens) false]⟩

/-- Hosting a connect ends in one of the listed ways. -/
theorem hosts_hostLocally {issued : Nat} {info : ConnectInfo} :
    Hosts env server issued message info (server.hostLocally env issued message info) := by
  rcases hAttach : Attach.run env server.options.defaults server.options.launch.headless issued
    server.session server.transport info with ⟨refusal | tokens, session, transport, calls⟩
  · simp only [hostLocally, hAttach]
    exact .refused hAttach
  · cases hDelivers : transport.delivers with
    | true =>
        simp only [hostLocally, hAttach, hDelivers]
        exact .delivered hAttach hDelivers
    | false =>
        simp only [hostLocally, hAttach, hDelivers]
        exact .undelivered hAttach hDelivers

end Server

end ConsoleHost
