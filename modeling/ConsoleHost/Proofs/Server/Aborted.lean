import ConsoleHost.Proofs.Server.Invariant
import ConsoleHost.Proofs.Session.Aborted

/-! Connections that a server does not complete. A refusal is answered before anything was published, and
a connection whose reply is not delivered is undone afterwards. -/

namespace ConsoleHost.Server

open Call

variable {env : Environment} {server : Server} {message : Message}

/-- What is left of a connection that ended like this: nothing of the process, and of its session at most
that it was brought up. -/
structure Aborts (s : Session) (t : Loopback) (served : Served) : Prop where
  of_reply : ∀ reply, served.completion = .reply reply →
    s.Spares served.server.session ∧ s.Stands served.server.session ∧ served.server.transport = t ∧
      ∀ what token, .publish what token ∉ served.calls
  of_undelivered : ∀ reply, .complete reply false ∈ served.calls →
    s.Spares served.server.session ∧ (s.initialized = false → served.server.session.Unattended)

theorem Hosts.aborts {issued : Nat} {info : ConnectInfo} {served : Served}
    (hosts : Hosts env server issued message info served) (consistent : server.session.Consistent)
    (hNew : info.pid ∉ server.session.processes.pids) :
    Aborts server.session server.transport served := by
  cases hosts with
  | refused hAttach =>
      obtain ⟨spares, stands, hTransport, hCalls⟩ :=
        (Attach.ends_of_run consistent hAttach).aborted consistent hNew rfl
      have hNone {call : Call} (hReaches : call.reaches = true) : call ∉ _ := fun hMem =>
        List.not_mem_nil (hCalls ▸ mem_reaching.2 ⟨hMem, hReaches⟩)
      constructor
      · intro _ _
        exact ⟨spares, stands, hTransport, fun what token => hNone rfl⟩
      · intro reply hMem
        exact absurd hMem (hNone rfl)
  | delivered hAttach =>
      constructor
      · intro _ hReply
        cases hReply
      · intro reply hMem
        rcases List.mem_append.1 hMem with hBefore | hLast
        · obtain ⟨_, _, hPublish⟩ := (Attach.ends_of_run consistent hAttach).publishes
            consistent.sound (mem_reaching.2 ⟨hBefore, rfl⟩)
          cases hPublish
        · cases List.mem_singleton.1 hLast
  | undelivered hAttach =>
      obtain ⟨spares, _, unattended⟩ :=
        (Attach.ends_of_run consistent hAttach).undelivered consistent rfl
      constructor
      · intro _ hReply
        cases hReply
      · intro _ _
        exact ⟨spares, unattended⟩

theorem aborts_hostLocally (server : Server) {issued : Nat} {info : ConnectInfo}
    (consistent : server.session.Consistent) (hNew : info.pid ∉ server.session.processes.pids) :
    Aborts server.session server.transport (server.hostLocally env issued message info) :=
  hosts_hostLocally.aborts consistent hNew

/-- An attempt to hand the session over moves nothing that a connection could leave behind. -/
theorem spares_of_attempt {serverHandle : Option RawHandle} {target : Clsid}
    {descriptor : Descriptor} {s : Session} {result : Handoff.Attempt}
    (h : Handoff.attempt env serverHandle target descriptor s = result) :
    s.Spares result.session ∧ s.Stands result.session ∧ reaching result.calls = [] := by
  have hCalls : reaching result.calls = [] := h ▸ Handoff.reaching_attempt ..
  rcases Handoff.session_of_attempt h with hSame | hGiven
  · rw [hSame]
    exact ⟨s.spares_wakeEvent s.wakeEvent, s.stands_wakeEvent s.wakeEvent, hCalls⟩
  · rw [hGiven]
    exact ⟨s.spares_wakeEvent none, s.stands_wakeEvent none, hCalls⟩

/-- A connection that is hosted after all is aborted as if no handoff had been attempted. -/
theorem Aborts.after_attempt {s s' : Session} {t : Loopback} {served : Served} {calls : List Call}
    (aborts : Aborts s' t served) (spares : s.Spares s') (stands : s.Stands s')
    (hCalls : reaching calls = []) : Aborts s t { served with calls := calls ++ served.calls } := by
  have hLater {call : Call} (hReaches : call.reaches = true) (hMem : call ∈ calls ++ served.calls) :
      call ∈ served.calls :=
    (List.mem_append.1 hMem).resolve_left fun hBefore =>
      List.not_mem_nil (hCalls ▸ mem_reaching.2 ⟨hBefore, hReaches⟩)
  constructor
  · intro reply hReply
    obtain ⟨hSpares, hStands, hTransport, hPublish⟩ := aborts.of_reply reply hReply
    exact ⟨spares.trans hSpares, stands.trans hStands, hTransport,
      fun what token hMem => hPublish what token (hLater rfl hMem)⟩
  · intro reply hMem
    obtain ⟨hSpares, hUnattended⟩ := aborts.of_undelivered reply (hLater rfl hMem)
    exact ⟨spares.trans hSpares, fun hDown => hUnattended (stands.initialized_eq.trans hDown)⟩

theorem Connects.aborts {request : ConnectMessage} {info : ConnectInfo} {served : Served}
    (connects : Connects env server message request served) (consistent : server.session.Consistent)
    (hInfo : ConnectInfo.ofMessage message.descriptor request = .ok info)
    (hNew : info.pid ∉ server.session.processes.pids) :
    Aborts server.session server.transport served := by
  cases connects with
  | invalid hRefused => cases hInfo.symm.trans hRefused
  | hosted hSame =>
      cases hInfo.symm.trans hSame
      exact server.counted.aborts_hostLocally consistent hNew
  | handedOver _ _ hAttempt =>
      -- Neither premise can hold: there is no reply, and nothing was sent through the transport.
      have hCalls := (spares_of_attempt hAttempt).2.2
      constructor
      · intro _ hReply
        cases hReply
      · intro reply hMem
        have hReaches := mem_reaching.2 ⟨hMem, rfl⟩
        rw [reaching_append, hCalls] at hReaches
        cases hReaches
  | @fellBack _ target failure session calls _ hSame hTarget hAttempt hServed =>
      cases hInfo.symm.trans hSame
      subst hServed
      obtain ⟨spares, stands, hCalls⟩ := spares_of_attempt hAttempt
      have hConsistent := consistent_attempt consistent hTarget hAttempt
      rw [← Handoff.processes_of_attempt hAttempt] at hNew
      refine Aborts.after_attempt ?_ spares stands hCalls
      exact (server.declined target failure session).aborts_hostLocally hConsistent hNew

/-- A connection that is not completed leaves nothing of its process behind. If it is refused, with or
without a handoff having been attempted before, the session stands as it did and nothing was published.
If its reply is not delivered, a session that was brought up for it stays up, with endpoints that nobody has
open. The counts of all objects are as before while fewer handles were opened, those of this connection
included, than a 32-bit word counts. -/
theorem aborted_connect_leaves_nothing {request : ConnectMessage} {info : ConnectInfo}
    (reachable : Reachable server) (env : Environment) (hRequest : message.request = .connect request)
    (hInfo : ConnectInfo.ofMessage message.descriptor request = .ok info)
    (hNew : server.session.processes.find? info.pid = none) :
    Aborts server.session server.transport (server.dispatch env message) := by
  rw [ProcessTable.find?_eq_none_iff] at hNew
  exact (connects_dispatch hRequest).aborts reachable.consistent hInfo hNew

/-- The first connection of this server is not told that it succeeded. -/
def unheard : Server := begun.follow [.failNext 1]

/-- Its process is gone and its input is held by a handle that shares nothing. -/
def occupied : Server :=
  begun.follow [.dispatch quiet (connecting 7),
    .dispatch quiet ⟨⟨3, 0x100000001, 0, 0, 0, 0⟩, .disconnect⟩,
    .dispatch quiet ⟨⟨4, 0, 0, 0, 0, 0⟩, .create ⟨.currentInput, .readWrite, ⟨0⟩, 0⟩⟩]

theorem aborted_connect_leaves_nothing_unheard :
    (unheard.dispatch quiet (connecting 7)).server.session.Unattended ∧
      (occupied.dispatch quiet (connecting 8)).server.transport = occupied.transport ∧
      ∀ id, (occupied.dispatch quiet (connecting 8)).server.session.registry.object? id =
        occupied.session.registry.object? id := by
  have hUnheard : Reachable unheard := reachable_quiet (by simp)
  have hOccupied : Reachable occupied := reachable_quiet (by simp)
  have undelivered : Aborts _ _ (unheard.dispatch quiet (connecting 7)) :=
    aborted_connect_leaves_nothing hUnheard quiet rfl rfl rfl
  have refused : Aborts _ _ (occupied.dispatch quiet (connecting 8)) :=
    aborted_connect_leaves_nothing hOccupied quiet rfl rfl rfl
  obtain ⟨-, stands, hTransport, -⟩ :=
    refused.of_reply ((connecting 8).reply .sharingViolation) (by decide)
  refine ⟨?_, hTransport, stands.object?_eq (by decide)⟩
  refine (undelivered.of_undelivered (connectedReply (connecting 7) ⟨0x100000001, 1, 2⟩) ?_).2 rfl
  decide

end ConsoleHost.Server
