import ConsoleHost.Proofs.Hosting
import ConsoleHost.Proofs.Server.Ledger

/-! Connections to a server that is shutting down. That it is shutting down is noted and never looked at:
a connection is offered to a handler or hosted as before, and starts nothing only where it would not have
started anything before. -/

namespace ConsoleHost

open Call

/-- A call of the handoff beyond this server: a handler is activated or a relay started. -/
def Call.delegates : Call → Bool
  | activate .. | startRelay _ => true
  | _ => false

variable {env : Environment} {defaults : SessionDefaults} {headless : Bool} {issued : Nat} {s : Session}
  {t : Loopback} {info : ConnectInfo}

/-- Attaching a process asks no handler. -/
theorem Attach.not_delegates {o : Outcome} (h : run env defaults headless issued s t info = o) :
    ∀ call ∈ o.calls, call.delegates = false := by
  subst h
  intro call hMem
  have hHosts := hosts_of_mem_run hMem
  cases call with
  | activate => simp [serves, raises] at hHosts
  | startRelay => simp [serves, raises] at hHosts
  | _ => rfl

namespace Server

/-- A request starts nothing: no process joins, the session does not come up, no handler is activated and
no relay is started. -/
structure Rests (server : Server) (served : Served) : Prop where
  length_le : served.server.session.processes.records.length ≤ server.session.processes.records.length
  not_raised : served.server.session.initialized = true → server.session.initialized = true
  not_delegates : ∀ call ∈ served.calls, call.delegates = false

variable {server : Server} {message : Message} {served : Served}

theorem length_records_of_accounts {s' : Session} {news : News} (accounts : s.Accounts news s') :
    s'.processes.records.length = (s.ledger.after news).connections.length := by
  rw [← accounts.ledger_eq, Session.ledger, List.length_map]

theorem Hosts.rests_iff {info : ConnectInfo} {issued : Nat}
    (hosts : Hosts env server issued message info served) (consistent : server.session.Consistent) :
    Rests server served ↔ (∃ reply, served.completion = .reply reply) ∨
      (server.session.initialized = true ∧ ∃ reply, .complete reply false ∈ served.calls) := by
  have hBefore : server.session.processes.records.length = server.session.ledger.connections.length := by
    rw [Session.ledger, List.length_map]
  cases hosts with
  | refused hAttach =>
      have ends := Attach.ends_of_run consistent hAttach
      have hLength := length_records_of_accounts (ends.accounts_of_error consistent rfl)
      have hSame := ends.initialized_of_error consistent rfl
      refine iff_of_true ⟨?_, fun hUp => hSame ▸ hUp, Attach.not_delegates hAttach⟩ (.inl ⟨_, rfl⟩)
      exact Nat.le_of_eq (hLength.trans hBefore.symm)
  | delivered hAttach =>
      have ends := Attach.ends_of_run consistent hAttach
      have hLength := length_records_of_accounts (ends.accounts_of_ok consistent rfl)
      refine iff_of_false (fun rests => ?_) ?_
      · have hLe := rests.length_le
        simp only [hLength, hBefore, Ledger.after, List.length_append, List.length_singleton] at hLe
        omega
      · rintro (⟨_, hReply⟩ | ⟨-, reply, hMem⟩)
        · cases hReply
        · rcases List.mem_append.1 hMem with hEarlier | hLast
          · obtain ⟨_, _, hPublish⟩ := ends.publishes consistent.sound (mem_reaching.2 ⟨hEarlier, rfl⟩)
            cases hPublish
          · cases List.mem_singleton.1 hLast
  | undelivered hAttach =>
      have ends := Attach.ends_of_run consistent hAttach
      have hLength := length_records_of_accounts (ends.accounts_undelivered consistent rfl)
      obtain ⟨-, -, unattended⟩ := ends.undelivered consistent rfl
      constructor
      · intro rests
        refine .inr ⟨?_, _, List.mem_append_right _ (List.mem_singleton_self _)⟩
        -- A session that was down is up now, which is more than rest allows.
        cases hDown : server.session.initialized with
        | true => rfl
        | false =>
            obtain ⟨_, _, _, _, _, hosts, -⟩ := unattended hDown
            exact hDown ▸ rests.not_raised hosts.initialized_eq
      · rintro (⟨_, hReply⟩ | ⟨hUp, -⟩)
        · cases hReply
        · refine ⟨Nat.le_of_eq (hLength.trans hBefore.symm), fun _ => hUp, ?_⟩
          exact List.forall_mem_append.2 ⟨Attach.not_delegates hAttach, by simp [delegates]⟩

theorem not_rests_of_attempt {target : Clsid} {result : Handoff.Attempt} {more : List Call}
    (hAttempt : Handoff.attempt env server.transport.serverHandle target message.descriptor
      server.session = result) (hCalls : served.calls = result.calls ++ more) : ¬Rests server served := by
  intro rests
  obtain ⟨succeeded, hMem⟩ := (Handoff.attempts_of_attempt hAttempt).activates
  cases rests.not_delegates _ (hCalls ▸ List.mem_append_left _ hMem)

/-- A connection starts nothing exactly if it is not offered to a handler and is refused, or if its reply is
lost in a session that was up before. -/
theorem Connects.rests_iff {request : ConnectMessage} (connects : Connects env server message request served)
    (consistent : server.session.Consistent) :
    Rests server served ↔
      (∀ info, ConnectInfo.ofMessage message.descriptor request = .ok info →
        server.handoffTarget? env info = none) ∧
      ((∃ reply, served.completion = .reply reply) ∨
        (server.session.initialized = true ∧ ∃ reply, .complete reply false ∈ served.calls)) := by
  cases connects with
  | invalid hInfo =>
      refine iff_of_true ⟨Nat.le_refl _, fun hUp => hUp, by simp⟩ ⟨fun info hOther => ?_, .inl ⟨_, rfl⟩⟩
      rw [hInfo] at hOther
      cases hOther
  | @hosted info hInfo hTarget =>
      have hosts : Hosts env server.counted 0 message info (server.counted.hostLocally env 0 message info) :=
        hosts_hostLocally
      have hEnds := hosts.rests_iff consistent
      constructor
      · intro rests
        refine ⟨fun other hOther => ?_, hEnds.1 ⟨rests.length_le, rests.not_raised, rests.not_delegates⟩⟩
        rw [hInfo] at hOther
        cases hOther
        exact hTarget
      · intro hAborted
        have rests := hEnds.2 hAborted.2
        exact ⟨rests.length_le, rests.not_raised, rests.not_delegates⟩
  | handedOver hInfo hTarget hAttempt =>
      refine iff_of_false (not_rests_of_attempt hAttempt rfl) fun hNone => ?_
      rw [hNone.1 _ hInfo] at hTarget
      cases hTarget
  | fellBack hInfo hTarget hAttempt =>
      refine iff_of_false (not_rests_of_attempt hAttempt rfl) fun hNone => ?_
      rw [hNone.1 _ hInfo] at hTarget
      cases hTarget

/-- The server in the same state, but shutting down. -/
def stopping (server : Server) : Server := { server with shuttingDown := true }

theorem hostLocally_stopping (server : Server) (env : Environment) (issued : Nat) (message : Message)
    (info : ConnectInfo) :
    server.stopping.hostLocally env issued message info =
      { server.hostLocally env issued message info with
        server := (server.hostLocally env issued message info).server.stopping } := by
  simp only [hostLocally, stopping]
  split <;> rfl

theorem connect_stopping (server : Server) (env : Environment) (message : Message)
    (request : ConnectMessage) :
    server.stopping.connect env message request =
      { server.connect env message request with
        server := (server.connect env message request).server.stopping } := by
  cases hInfo : ConnectInfo.ofMessage message.descriptor request with
  | error refusal =>
      rw [connect_of_invalid hInfo, connect_of_invalid hInfo]
      rfl
  | ok info =>
      cases hTarget : server.handoffTarget? env info with
      | none =>
          have hSame : server.stopping.handoffTarget? env info = none := hTarget
          rw [connect_of_hosted hInfo hTarget, connect_of_hosted hInfo hSame]
          exact hostLocally_stopping server.counted env 0 message info
      | some target =>
          have hSame : server.stopping.handoffTarget? env info = some target := hTarget
          rcases hAttempt : Handoff.attempt env server.transport.serverHandle target
            message.descriptor server.session with ⟨failure | representative, session, calls⟩
          · have hHost := hostLocally_stopping (server.declined target failure session) env
              (issued calls).length message info
            have hDeclined : server.stopping.declined target failure session =
              (server.declined target failure session).stopping := rfl
            rw [connect_of_fellBack hInfo hTarget hAttempt, connect_of_fellBack hInfo hSame hAttempt,
              hDeclined, hHost]
          · rw [connect_of_handedOver hInfo hTarget hAttempt, connect_of_handedOver hInfo hSame hAttempt]
            rfl

/-- Whether a server is shutting down makes no difference to what it does. -/
theorem dispatch_stopping (server : Server) (env : Environment) (message : Message) :
    server.stopping.dispatch env message =
      { server.dispatch env message with server := (server.dispatch env message).server.stopping } := by
  simp only [dispatch]
  split
  · simp only [create, stopping]
    split <;> rfl
  · rfl
  · next request _ => exact connect_stopping server env message request
  · simp only [disconnect, stopping]
    split
    · rfl
    · simp
  · simp only [api, stopping]
    split <;> rfl

/-- A server that is shutting down serves a connection like one that runs. The connection starts nothing
exactly if it is not offered to a handler and is refused, or if its reply is lost in a session that was up. -/
theorem connect_while_shuttingDown {request : ConnectMessage} (reachable : Reachable server)
    (hStopping : server.shuttingDown = true) (hRequest : message.request = .connect request) :
    let running := { server with shuttingDown := false }.dispatch env message
    let served := server.dispatch env message
    served = { running with server := running.server.stopping } ∧
      (Rests server served ↔
        (∀ info, ConnectInfo.ofMessage message.descriptor request = .ok info →
          server.handoffTarget? env info = none) ∧
        ((∃ reply, served.completion = .reply reply) ∨
          (server.session.initialized = true ∧ ∃ reply, .complete reply false ∈ served.calls))) := by
  intro running served
  constructor
  · have hSame : { server with shuttingDown := false }.stopping = server := by
      rw [stopping, ← hStopping]
    exact (congrArg (·.dispatch env message) hSame).symm.trans (dispatch_stopping _ env message)
  · have connects : Connects env server message request served := by
      simp only [served, dispatch, hRequest]
      exact connects_connect
    exact connects.rests_iff reachable.consistent

/-- It has hosted a process, and was shut down. -/
def stopped : Server := begun.follow [.dispatch quiet (connecting 7), .shutdown]

/-- It has handed its session over. -/
def moved : Server := delegating.follow [.dispatch (willing 1) (connecting 7)]

theorem reachable_stopped : Reachable stopped := reachable_quiet (by simp)

theorem connect_while_shuttingDown_stopped :
    (stopped.dispatch quiet (connecting 8)).server.shuttingDown = true ∧
      ¬Rests stopped (stopped.dispatch quiet (connecting 8)) := by
  obtain ⟨hServed, hRests⟩ :=
    connect_while_shuttingDown reachable_stopped rfl (rfl : (connecting 8).request = .connect _)
  refine ⟨congrArg (·.server.shuttingDown) hServed, fun rests => ?_⟩
  rcases (hRests.1 rests).2 with ⟨reply, hReply⟩ | ⟨hUp, -⟩
  · cases hReply
  · cases hUp

/-- After a shutdown a process joins and the session comes up again. After a handoff the handler is activated
and a relay started once more. -/
theorem shuttingDown_not_final :
    (Reachable stopped ∧ stopped.shuttingDown = true ∧
      stopped.session.initialized = false ∧ stopped.session.processes.pids = [] ∧
      (stopped.dispatch quiet (connecting 8)).server.session.initialized = true ∧
      (stopped.dispatch quiet (connecting 8)).server.session.processes.pids = [8]) ∧
    (Reachable moved ∧ moved.shuttingDown = true ∧
      .activate ⟨1⟩ true ∈ (moved.dispatch (willing 4) (connecting 8)).calls ∧
      .startRelay true ∈ (moved.dispatch (willing 4) (connecting 8)).calls) := by
  have started : Started delegating := ⟨quiet, _, _, _, _, start_delegating⟩
  have hMoved : Reachable moved :=
    started.reachable.step (.dispatch (willing 1) (connecting 7)) (standard_willing 1)
  refine ⟨⟨reachable_stopped, rfl, rfl, rfl, by decide, by decide⟩, hMoved, rfl, ?_, ?_⟩
  · exact List.mem_append_left _ (List.mem_append_left _ (List.mem_append_left _ (List.mem_cons_self ..)))
  · exact List.mem_append_left _ (List.mem_append_right _ (List.mem_cons_self ..))

end Server

end ConsoleHost
