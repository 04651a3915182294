import ConsoleHost.Proofs.Server.Invariant
import ConsoleHost.Proofs.Session.Ledger
import ConsoleHost.Proofs.Session.Turnover

/-! What one step of a server comes to for who is connected. A connection shows in the calls that are made for it: the
process is published, and a reply is handed to the transport, which delivers it or not. Each step gains at most one
such process, and otherwise leaves everybody, loses one, or is the shutdown that loses all. -/

namespace ConsoleHost

open Call

/-- A connection as the calls show it: who connected, under which token, and whether its client was told. -/
structure Connection where
  pid : UInt32
  token : Nat
  delivered : Bool
  deriving DecidableEq

/-- The connection for which these calls were made, if a process is published and a reply is sent. -/
def Call.connection? (calls : List Call) : Option Connection :=
  match admitted calls, sent calls with
  | [(pid, token)], [(_, delivered)] => some ⟨pid, token, delivered⟩
  | _, _ => none

theorem Call.connection?_reaching (calls : List Call) : connection? (reaching calls) = connection? calls := by
  rw [connection?, admitted_reaching, sent_reaching, ← connection?]

theorem Call.connection?_of_reaching {calls : List Call} (h : reaching calls = []) : connection? calls = none := by
  rw [← connection?_reaching, h]
  rfl

namespace Server

def Turn.connection? (turn : Turn) : Option Connection := Call.connection? turn.calls

/-- The step is a connect request with this message, which is valid. -/
def Step.ConnectsAs (step : Step) (request : ConnectMessage) (info : ConnectInfo) : Prop :=
  ∃ env message, step = .dispatch env message ∧ message.request = .connect request ∧
    ConnectInfo.ofMessage message.descriptor request = .ok info

/-- Everything that a step can come to for the members of a session, with the connection that it shows. -/
inductive Turnover (step : Step) (s s' : Session) : Option Connection → Prop where
  | stayed (stays : s.Stays s') (hInitialized : s'.initialized = s.initialized) : Turnover step s s' none
  | joined {request : ConnectMessage} {info : ConnectInfo} {record : ProcessRecord} {token : Nat}
      (connects : step.ConnectsAs request info) (gains : s.Gains info record s')
      (hToken : record.token = some token) : Turnover step s s' (some ⟨info.pid, token, true⟩)
  | unheard {pid : UInt32} {token : Nat} (stays : s.Stays s') (hInitialized : s'.initialized = true) :
      Turnover step s s' (some ⟨pid, token, false⟩)
  | left {env : Environment} {message : Message} {pid : UInt32} (hStep : step = .dispatch env message)
      (hRequest : message.request = .disconnect) (loses : s.Loses pid s') : Turnover step s s' none
  | closed (hStep : step = .shutdown) (hRecords : s'.processes.records = [])
      (hHistories : s'.histories = s.processes.pids.foldl HistoryPool.giveBack s.histories) :
      Turnover step s s' none

variable {env : Environment} {server : Server} {message : Message} {step : Step} {s s' s'' : Session}

/-- It makes no difference what else of the session changed before. -/
theorem Turnover.after {connection : Option Connection} (turnover : Turnover step s s' connection)
    (hProcesses : s.processes = s''.processes) (hHistories : s.histories = s''.histories)
    (hInitialized : s.initialized = s''.initialized) : Turnover step s'' s' connection := by
  cases turnover with
  | stayed stays hSame =>
      obtain ⟨hMembers, restored⟩ := stays
      rw [hProcesses] at hMembers restored
      exact .stayed ⟨hMembers, hHistories ▸ restored⟩ (hSame.trans hInitialized)
  | joined connects gains hToken =>
      refine .joined connects ⟨?_, gains.pid_eq, ?_, ?_, ?_, gains.initialized_eq⟩ hToken
      · exact hProcesses ▸ gains.pid_not_mem
      · exact hInitialized ▸ gains.root_eq
      · exact hProcesses ▸ gains.members_eq
      · exact hHistories ▸ gains.histories_eq
  | unheard stays hUp =>
      obtain ⟨hMembers, restored⟩ := stays
      rw [hProcesses] at hMembers restored
      exact .unheard ⟨hMembers, hHistories ▸ restored⟩ hUp
  | @left _ _ pid hStep hRequest loses =>
      have before : s''.Loses pid s' :=
        ⟨hProcesses ▸ loses.members_eq, hHistories ▸ loses.histories_eq, loses.initialized_eq.trans hInitialized⟩
      exact .left hStep hRequest before
  | closed hStep hRecords hGiven =>
      rw [hProcesses, hHistories] at hGiven
      exact .closed hStep hRecords hGiven

theorem connection?_of_unpublished {before calls : List Call} (hBefore : reaching before = [])
    (hCalls : reaching calls = []) : Call.connection? (before ++ calls) = none := by
  refine Call.connection?_of_reaching ?_
  rw [reaching_append, hBefore, hCalls]
  rfl

/-- The calls that publish a process and answer it, after calls that reach no client. -/
theorem connection?_of_published {before calls : List Call} {info : ConnectInfo} {tokens : ConnectionTokens}
    {reply : Reply} {delivered : Bool} (hBefore : reaching before = [])
    (hCalls : reaching calls = [.publish (.process info.pid) tokens.process,
      .publish (.handle ⟨tokens.input⟩) tokens.input, .publish (.handle ⟨tokens.output⟩) tokens.output]) :
    Call.connection? (before ++ (calls ++ [.complete reply delivered])) =
      some ⟨info.pid, tokens.process, delivered⟩ := by
  rw [← Call.connection?_reaching, reaching_append, reaching_append, hBefore, hCalls]
  rfl

/-- Hosting a process, after calls that reach no client. -/
theorem Hosts.turnover {issued : Nat} {request : ConnectMessage} {info : ConnectInfo} {served : Served}
    (hosts : Hosts env server issued message info served) (consistent : server.session.Consistent)
    (connects : (Step.dispatch env message).ConnectsAs request info) {before : List Call}
    (hBefore : reaching before = []) :
    Turnover (.dispatch env message) server.session served.server.session
      (Call.connection? (before ++ served.calls)) := by
  cases hosts with
  | refused hAttach =>
      have ends := Attach.ends_of_run consistent hAttach
      rw [connection?_of_unpublished hBefore (ends.reaching_of_error consistent rfl)]
      exact .stayed (ends.stays_of_error consistent rfl) (ends.initialized_of_error consistent rfl)
  | delivered hAttach =>
      have ends := Attach.ends_of_run consistent hAttach
      obtain ⟨record, hToken, gains⟩ := ends.gains_of_ok consistent rfl
      rw [connection?_of_published hBefore (ends.reaching_of_ok consistent rfl)]
      exact .joined connects gains hToken
  | undelivered hAttach =>
      have ends := Attach.ends_of_run consistent hAttach
      obtain ⟨stays, hUp⟩ := ends.stays_undelivered consistent rfl
      rw [connection?_of_published hBefore (ends.reaching_of_ok consistent rfl)]
      exact .unheard stays hUp

theorem Connects.turnover {request : ConnectMessage} {served : Served}
    (connects : Connects env server message request served) (consistent : server.session.Consistent)
    (hRequest : message.request = .connect request) :
    Turnover (.dispatch env message) server.session served.server.session (Call.connection? served.calls) := by
  cases connects with
  | invalid => exact .stayed (Session.stays_of_eq rfl rfl) rfl
  | @hosted info hInfo =>
      have hosted : Hosts env server.counted 0 message info _ := hosts_hostLocally
      have hNothing : reaching [] = [] := rfl
      exact hosted.turnover consistent ⟨env, message, rfl, hRequest, hInfo⟩ hNothing
  | handedOver _ _ hAttempt =>
      have stays : server.session.Stays _ :=
        Session.stays_of_eq (Handoff.processes_of_attempt hAttempt) (Handoff.histories_of_attempt hAttempt)
      rw [connection?_of_unpublished (Handoff.reaching_of_attempt hAttempt) rfl]
      exact .stayed stays (Handoff.initialized_of_attempt hAttempt)
  | @fellBack info target failure session calls _ hInfo hTarget hAttempt hServed =>
      subst hServed
      have hosted : Hosts env (server.declined target failure session) (Call.issued calls).length message info _ :=
        hosts_hostLocally
      have turnover := hosted.turnover (consistent_attempt consistent hTarget hAttempt)
        ⟨env, message, rfl, hRequest, hInfo⟩ (Handoff.reaching_of_attempt hAttempt)
      exact turnover.after (Handoff.processes_of_attempt hAttempt) (Handoff.histories_of_attempt hAttempt)
        (Handoff.initialized_of_attempt hAttempt)

theorem connection?_create {request : CreateRequest} :
    Call.connection? (server.create message request).calls = none := by
  simp only [create]
  split
  · rfl
  · rfl

theorem turnover_dispatch (hStandard : env.Standard) (consistent : server.session.Consistent) :
    Turnover (.dispatch env message) server.session (server.dispatch env message).server.session
      (Call.connection? (server.dispatch env message).calls) := by
  rw [dispatch]
  split
  · next request _ =>
      obtain ⟨registry, hSession, -⟩ := continues_create consistent request
      rw [hSession, connection?_create]
      exact .stayed (Session.stays_of_eq rfl rfl) rfl
  · have hClose : ∃ registry, (server.close message).server.session = { server.session with registry := registry } ∧
        server.session.registry.Continues registry := continues_close consistent
    obtain ⟨registry, hSession, -⟩ := hClose
    rw [hSession, close]
    exact .stayed (Session.stays_of_eq rfl rfl) rfl
  · next hRequest => exact connects_connect.turnover consistent hRequest
  · next hRequest =>
      simp only [disconnect]
      split
      · exact .stayed (Session.stays_of_eq rfl rfl) rfl
      · next record _ =>
          rw [Call.connection?_of_reaching (env.reaching_accessibilityCalls ..)]
          simp only [hStandard.depart_eq, Session.snd_depart]
          exact .left rfl hRequest (server.session.loses_rollback record.pid)
  · simp only [api]
    split
    · exact .stayed (Session.stays_of_eq rfl rfl) rfl
    · simp only [hStandard.session_answer]
      exact .stayed (Session.stays_of_eq rfl rfl) rfl

theorem turnover_turn {step : Step} (hStandard : step.Standard) (consistent : server.session.Consistent) :
    Turnover step server.session (server.turn step).server.session (server.turn step).connection? := by
  cases step with
  | dispatch env message => exact turnover_dispatch hStandard consistent
  | shutdown =>
      have hClosed : (server.turn .shutdown).connection? = none := by
        simp only [turn, shutdown, Turn.connection?]
        cases server.session.wakeEvent with
        | none => rfl
        | some event => rfl
      rw [hClosed]
      exact .closed rfl (Session.records_foldl_rollback (s := server.session) rfl)
        (Session.histories_foldl_rollback _ _)
  | failNext count => exact .stayed (Session.stays_of_eq rfl rfl) rfl
  | focus on => exact .stayed (Session.stays_of_eq rfl rfl) rfl

end Server

end ConsoleHost
