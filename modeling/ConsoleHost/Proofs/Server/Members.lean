import ConsoleHost.Proofs.Server.Invariant
import ConsoleHost.Proofs.Session.Members

/-! What one step of a server does to the members of its session. One may join, be turned away again because
its reply is lost, or leave, and all of them are removed at once when the server is shut down. The API layer may
do to the rest of the session what it likes. -/

namespace ConsoleHost

open Call

/-- A departing process is removed as usual, and the API layer leaves the records of processes as they are but
for foreground rights. -/
structure Environment.KeepsMembers (env : Environment) : Prop where
  depart_eq : env.depart = Session.depart
  members_answer : ∀ s message, (env.answer s message).2.processes.members = s.processes.members

/-- A standard layer behind API calls keeps the records, but for their foreground flags. -/
theorem Environment.Standard.keepsMembers {env : Environment} (standard : env.Standard) : env.KeepsMembers :=
  ⟨standard.depart_eq, fun s message => by rw [standard.session_answer]⟩

/-- So many process tokens were given out, each with a publication. -/
structure Loopback.Grows (t t' : Loopback) (count : Nat) : Prop where
  processTokens_eq : t'.processTokens = t.processTokens + count
  published_le : t.published.length + count ≤ t'.published.length

namespace Loopback

variable {t : Loopback}

theorem grows_zero (t : Loopback) : t.Grows t 0 := ⟨rfl, Nat.le_refl _⟩

theorem grows_complete {t' : Loopback} {count : Nat} (grows : t.Grows t' count) (reply : Reply) :
    t.Grows (t'.complete reply) count := by
  simp only [complete]
  split
  · exact ⟨grows.processTokens_eq, grows.published_le⟩
  · exact ⟨grows.processTokens_eq, grows.published_le⟩

theorem grows_publish_handle (t : Loopback) (handle : HandleId) : t.Grows (t.publish (.handle handle)) 0 :=
  ⟨rfl, by simp [publish]⟩

/-- Publishing a connection uses up one process token. -/
theorem grows_publishConnection (t : Loopback) (pid : UInt32) (input output : HandleId) :
    t.Grows (t.publishConnection pid input output).transport 1 :=
  ⟨rfl, by simp [publishConnection, publish]⟩

end Loopback

namespace Server

def Step.KeepsMembers : Step → Prop
  | dispatch env _ => env.KeepsMembers
  | shutdown | failNext _ | focus _ => True

theorem Step.Standard.keepsMembers {step : Step} (hStandard : step.Standard) : step.KeepsMembers := by
  cases step with
  | dispatch env message => exact Environment.Standard.keepsMembers hStandard
  | shutdown => trivial
  | failNext count => trivial
  | focus on => trivial

/-- The step ends the connection with this token, if there is one: the process disconnects, or the server is
shut down. -/
def Step.Ends (token : Nat) : Step → Prop
  | dispatch _ message => message.request = .disconnect ∧ message.descriptor.processToken = token
  | shutdown => True
  | failNext _ | focus _ => False

/-- What a step does to the members of a session and to the transport, and the calls it makes. -/
inductive Moves (step : Step) (p : ProcessTable) (t : Loopback) (p' : ProcessTable) (t' : Loopback)
    (calls : List Call) : Prop where
  | kept (hEnds : ∀ token, step.Ends token → p.findByToken? token = none) (hMembers : p' = p)
      (grows : t.Grows t' 0) (hCalls : admitted calls = [])
  | joined {env : Environment} {message : Message} {record : ProcessRecord} {tokens : ConnectionTokens}
      (hStep : step = .dispatch env message) (hEnds : ∀ token, ¬step.Ends token)
      (hNew : record.pid ∉ p.pids) (hToken : record.token = some tokens.process)
      (hFresh : tokens.process = Loopback.processTokenBase + t.processTokens + 1)
      (hMembers : p' = p.enter record) (grows : t.Grows t' 1)
      (hCalls : admitted calls = [(record.pid, tokens.process)])
      (hReply : sent calls = [(connectedReply message tokens, true)])
  | unheard {env : Environment} {message : Message} {pid : UInt32} {tokens : ConnectionTokens}
      (hStep : step = .dispatch env message) (hEnds : ∀ token, ¬step.Ends token)
      (hFresh : tokens.process = Loopback.processTokenBase + t.processTokens + 1)
      (hMembers : p' = p) (grows : t.Grows t' 1) (hCalls : admitted calls = [(pid, tokens.process)])
      (hReply : sent calls = [(connectedReply message tokens, false)])
  | left {record : ProcessRecord} {token : Nat} (hFind : p.findByToken? token = some record)
      (hEnds : ∀ other, step.Ends other ↔ other = token) (hMembers : p' = p.erase record.pid)
      (grows : t.Grows t' 0) (hCalls : admitted calls = [])
  | closed (hEnds : ∀ token, step.Ends token) (hMembers : p'.records = []) (grows : t.Grows t' 0)
      (hCalls : admitted calls = [])

variable {env : Environment} {server : Server} {message : Message}

/-- Only a disconnect ends a connection. -/
theorem not_ends_of_request (h : message.request ≠ .disconnect) (token : Nat) :
    ¬(Step.dispatch env message).Ends token := fun hEnds => h hEnds.1

/-- A message that leaves the records alone and admits nobody moves nothing. -/
theorem moves_of_kept {p p' : ProcessTable} {t t' : Loopback} {calls : List Call}
    (h : message.request ≠ .disconnect) (hMembers : p' = p) (grows : t.Grows t' 0)
    (hCalls : admitted calls = []) : Moves (.dispatch env message) p t p' t' calls :=
  .kept (fun token hEnds => absurd hEnds (not_ends_of_request h token)) hMembers grows hCalls

theorem reaching_published {before calls published : List Call} {reply : Reply} {succeeded : Bool}
    (hBefore : reaching before = []) (hCalls : reaching calls = published) :
    reaching (before ++ (calls ++ [.complete reply succeeded])) = published ++ [.complete reply succeeded] := by
  rw [reaching_append, reaching_append, hBefore, hCalls]
  rfl

/-- Hosting a process, after calls that reach no client. -/
theorem Hosts.moves {issued : Nat} {info : ConnectInfo} {served : Served}
    (hosts : Hosts env server issued message info served) (hRequest : message.request ≠ .disconnect)
    {before : List Call} (hBefore : reaching before = []) :
    Moves (.dispatch env message) server.session.processes.members server.transport
      served.server.session.processes.members served.server.transport (before ++ served.calls) := by
  have hEnds : ∀ token, ¬(Step.dispatch env message).Ends token := not_ends_of_request hRequest
  have exits := Attach.exits_run env server.options.defaults server.options.launch.headless issued
    server.session server.transport info
  cases hosts with
  | refused hAttach =>
      rw [hAttach] at exits
      cases exits with
      | known =>
          refine moves_of_kept hRequest rfl (Loopback.grows_zero _) (admitted_of_reaching ?_)
          rw [List.append_nil, hBefore]
      | refused hNew seats hCalls =>
          refine moves_of_kept hRequest (seats.members_rollback hNew) (Loopback.grows_zero _)
            (admitted_of_reaching ?_)
          rw [reaching_append, hBefore, hCalls]
          rfl
  | delivered hAttach =>
      rw [hAttach] at exits
      cases exits with
      | attached hPublished hNew seats hCalls =>
          subst hPublished
          obtain ⟨record, hPid, hToken, hMembers⟩ := seats.members_eq
          rw [← hPid, ← ProcessTable.pids_members] at hNew
          refine .joined rfl hEnds hNew hToken rfl hMembers
            (Loopback.grows_complete (Loopback.grows_publishConnection ..) _) ?_ ?_
          · rw [← admitted_reaching, reaching_published hBefore hCalls, hPid]
            rfl
          · rw [← sent_reaching, reaching_published hBefore hCalls]
            rfl
  | @undelivered _ _ _ calls hAttach =>
      rw [hAttach] at exits
      cases exits with
      | @attached _ input output _ _ hPublished hNew seats hCalls =>
          subst hPublished
          have hAdmitted (reply : Reply) : admitted (before ++ (calls ++ [.complete reply false])) =
              [(info.pid, (server.transport.publishConnection info.pid input output).tokens.process)] := by
            rw [← admitted_reaching, reaching_published hBefore hCalls]
            rfl
          refine .unheard rfl hEnds rfl (seats.members_rollback hNew)
            (Loopback.grows_complete (Loopback.grows_publishConnection ..) _) (hAdmitted _) ?_
          rw [← sent_reaching, reaching_published hBefore hCalls]
          rfl

/-- A connect enters one member or none. -/
theorem Connects.moves {request : ConnectMessage} {served : Served}
    (connects : Connects env server message request served) (hRequest : message.request ≠ .disconnect) :
    Moves (.dispatch env message) server.session.processes.members server.transport
      served.server.session.processes.members served.server.transport served.calls := by
  cases connects with
  | invalid => exact moves_of_kept hRequest rfl (Loopback.grows_zero _) rfl
  | @hosted info =>
      have hosted : Hosts env server.counted 0 message info _ := hosts_hostLocally
      have hNothing : reaching [] = [] := rfl
      exact hosted.moves hRequest hNothing
  | handedOver _ _ hAttempt =>
      refine moves_of_kept hRequest (congrArg ProcessTable.members (Handoff.processes_of_attempt hAttempt))
        (Loopback.grows_zero _) (admitted_of_reaching ?_)
      rw [reaching_append, Handoff.reaching_of_attempt hAttempt]
      rfl
  | @fellBack info target failure session calls _ _ _ hAttempt hServed =>
      subst hServed
      have hosted : Hosts env (server.declined target failure session) (Call.issued calls).length message info _ :=
        hosts_hostLocally
      have moves := hosted.moves hRequest (Handoff.reaching_of_attempt hAttempt)
      have hProcesses : (server.declined target failure session).session.processes =
          server.session.processes := Handoff.processes_of_attempt hAttempt
      rwa [hProcesses] at moves

/-- A create request leaves the members alone. -/
theorem moves_create {request : CreateRequest} (hRequest : message.request ≠ .disconnect) :
    Moves (.dispatch env message) server.session.processes.members server.transport
      (server.create message request).server.session.processes.members
      (server.create message request).server.transport (server.create message request).calls := by
  obtain ⟨registry, hKeeps⟩ := server.session.openObject_keeps request
  generalize hOpen : server.session.openObject request = opened at hKeeps
  obtain ⟨result, session⟩ := opened
  cases hKeeps
  cases result with
  | error refusal =>
      simp only [create, hOpen]
      exact moves_of_kept hRequest rfl (Loopback.grows_zero _) rfl
  | ok handle =>
      simp only [create, hOpen]
      refine moves_of_kept hRequest ?_ ?_ rfl
      · split <;> rfl
      · exact Loopback.grows_complete (Loopback.grows_publish_handle ..) _

theorem moves_close (hRequest : message.request ≠ .disconnect) :
    Moves (.dispatch env message) server.session.processes.members server.transport
      (server.close message).server.session.processes.members (server.close message).server.transport
      (server.close message).calls :=
  moves_of_kept hRequest rfl (Loopback.grows_zero _) rfl

/-- A disconnect takes out the member that its token addresses. -/
theorem moves_disconnect (keeps : env.KeepsMembers) (hRequest : message.request = .disconnect) :
    Moves (.dispatch env message) server.session.processes.members server.transport
      (server.disconnect env message).server.session.processes.members
      (server.disconnect env message).server.transport (server.disconnect env message).calls := by
  have hEnds (token : Nat) :
      (Step.dispatch env message).Ends token ↔ token = message.descriptor.processToken :=
    ⟨fun h => h.2.symm, fun h => ⟨hRequest, h.symm⟩⟩
  simp only [disconnect]
  split
  · next hNone =>
      refine .kept (fun token h => ?_) rfl (Loopback.grows_zero _) rfl
      rw [(hEnds token).1 h, ProcessTable.findByToken?_members, hNone]
      rfl
  · next record hFind =>
      have hMember : server.session.processes.members.findByToken? message.descriptor.processToken =
          some { record with foreground := false } := by
        rw [ProcessTable.findByToken?_members, hFind]
        rfl
      refine .left hMember hEnds ?_ (Loopback.grows_zero _)
        (admitted_of_reaching (env.reaching_accessibilityCalls ..))
      simp only [keeps.depart_eq, Session.snd_depart]
      exact server.session.members_rollback record.pid

theorem moves_api (keeps : env.KeepsMembers) (hRequest : message.request ≠ .disconnect) :
    Moves (.dispatch env message) server.session.processes.members server.transport
      (server.api env message).server.session.processes.members (server.api env message).server.transport
      (server.api env message).calls := by
  simp only [api]
  split
  · exact moves_of_kept hRequest rfl (Loopback.grows_zero _) rfl
  · exact moves_of_kept hRequest (keeps.members_answer server.session message) (Loopback.grows_zero _) rfl

/-- Every message moves the members as its calls and its request say. -/
theorem moves_dispatch (keeps : env.KeepsMembers) :
    Moves (.dispatch env message) server.session.processes.members server.transport
      (server.dispatch env message).server.session.processes.members
      (server.dispatch env message).server.transport (server.dispatch env message).calls := by
  rw [dispatch]
  split
  · next hRequest => exact moves_create (by simp [hRequest])
  · next hRequest => exact moves_close (by simp [hRequest])
  · next hRequest => exact connects_connect.moves (by simp [hRequest])
  · next hRequest => exact moves_disconnect keeps hRequest
  · next hRequest => exact moves_api keeps (by simp [hRequest])

/-- Every step moves the members as its calls and its request say. -/
theorem moves_turn (server : Server) {step : Step} (keeps : step.KeepsMembers) :
    Moves step server.session.processes.members server.transport
      (server.turn step).server.session.processes.members (server.turn step).server.transport
      (server.turn step).calls := by
  cases step with
  | dispatch env message => exact moves_dispatch keeps
  | shutdown =>
      have hRecords : server.session.teardown.processes.records = [] :=
        Session.records_foldl_rollback (s := server.session) rfl
      refine .closed (fun _ => trivial) ?_ (Loopback.grows_zero _) ?_
      · simp only [turn, shutdown, ProcessTable.members, ProcessTable.setForeground, hRecords, List.map_nil]
      · simp only [turn, shutdown]
        cases server.session.wakeEvent with
        | none => rfl
        | some event => rfl
  | failNext count => exact .kept (fun _ h => h.elim) rfl ⟨rfl, Nat.le_refl _⟩ rfl
  | focus on => exact .kept (fun _ h => h.elim) rfl (Loopback.grows_zero _) rfl

end Server

end ConsoleHost
