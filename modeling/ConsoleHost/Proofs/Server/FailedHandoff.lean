import ConsoleHost.Proofs.Server.OpenHandles
import ConsoleHost.Proofs.Session.Rewoken

/-! A handoff that fails. The process is hosted as it would have been had its session not been offered to
anybody, with the same event if that was not given away and with a new one if it was. -/

namespace ConsoleHost

open Call

namespace Server

/-- The second way of serving a request differs from the first, as far as clients and the state go, by what
`f` changes of the session. -/
structure Mirrors (f : Session → Session) (first second : Served) : Prop where
  completion_eq : second.completion = first.completion
  session_eq : second.server.session = f first.server.session
  transport_eq : second.server.transport = first.server.transport
  shuttingDown_eq : second.server.shuttingDown = first.server.shuttingDown
  reaching_eq : reaching second.calls = reaching first.calls

variable {env : Environment} {server : Server} {message : Message}

/-- Servers whose attaches mirror one another host a connect alike. -/
theorem mirrors_hostLocally {f : Session → Session} {first second : Server} {issued other : Nat}
    {info : ConnectInfo} (hRollback : ∀ s pid, (f s).rollback pid = f (s.rollback pid))
    (hShuttingDown : second.shuttingDown = first.shuttingDown)
    (mirrors : Attach.Mirrors f
      (Attach.run env first.options.defaults first.options.launch.headless issued first.session
        first.transport info)
      (Attach.run env second.options.defaults second.options.launch.headless other second.session
        second.transport info)) :
    Mirrors f (first.hostLocally env issued message info) (second.hostLocally env other message info) := by
  simp only [hostLocally]
  -- Both attempts have one result, so hosting is split by it only once.
  revert mirrors
  generalize Attach.run env first.options.defaults first.options.launch.headless issued first.session
    first.transport info = one
  generalize Attach.run env second.options.defaults second.options.launch.headless other second.session
    second.transport info = two
  intro mirrors
  obtain ⟨_, session, _, calls⟩ := one
  obtain ⟨result, _, transport, more⟩ := two
  obtain ⟨hResult, hSession, hTransport, hReaching⟩ := mirrors
  dsimp only at hResult hSession hTransport hReaching
  subst hResult hSession hTransport
  cases result with
  | error refusal => exact ⟨rfl, rfl, rfl, hShuttingDown, hReaching⟩
  | ok tokens =>
      refine ⟨rfl, ?_, rfl, hShuttingDown, ?_⟩
      · dsimp only
        split
        · rfl
        · exact hRollback session info.pid
      · simp only [reaching_append, hReaching]

/-- Hosting a connect keeps a wake event that the session holds. -/
theorem wakeEvent_hostLocally {issued : Nat} {info : ConnectInfo} {event : RawHandle} (server : Server)
    (consistent : server.session.Consistent) (h : server.session.wakeEvent = some event) :
    (server.hostLocally env issued message info).server.session.wakeEvent = some event := by
  have hosts : Hosts env server issued message info _ := hosts_hostLocally
  generalize server.hostLocally env issued message info = served at hosts
  cases hosts with
  | refused hAttach => exact (Attach.ends_of_run consistent hAttach).wakeEvent_eq consistent.sound h
  | delivered hAttach => exact (Attach.ends_of_run consistent hAttach).wakeEvent_eq consistent.sound h
  | undelivered hAttach =>
      rw [Session.wakeEvent_rollback]
      exact (Attach.ends_of_run consistent hAttach).wakeEvent_eq consistent.sound h

/-- The server with handing over switched off. -/
def undelegated (server : Server) : Server :=
  { server with options := { server.options with launch := { server.options.launch with disabled := true } } }

/-- A server without a target offers nothing. -/
theorem handoffTarget?_undelegated (server : Server) (env : Environment) (info : ConnectInfo) :
    server.undelegated.handoffTarget? env info = none := by
  simp only [handoffTarget?]
  split
  · next hNone =>
      have hConditions := (Handoff.Conditions.decline?_eq_none_iff _).1 hNone
      cases congrArg (·.handoffDisabled) hConditions
  · rfl

/-- A server without a target hosts every valid connect. -/
theorem dispatch_undelegated {request : ConnectMessage} {info : ConnectInfo}
    (hRequest : message.request = .connect request)
    (hInfo : ConnectInfo.ofMessage message.descriptor request = .ok info) :
    server.undelegated.dispatch env message = server.undelegated.counted.hostLocally env 0 message info := by
  simp only [dispatch, hRequest]
  exact connect_of_hosted hInfo (server.handoffTarget?_undelegated env info)

/-- A connect that falls back is hosted as a server without a target would, if the attaches mirror one
another. -/
theorem mirrors_fellBack {f : Session → Session} {request : ConnectMessage} {info : ConnectInfo}
    {target : Clsid} {failure : Handoff.Error} {session : Session} {calls : List Call}
    (hRequest : message.request = .connect request)
    (hInfo : ConnectInfo.ofMessage message.descriptor request = .ok info)
    (hTarget : server.handoffTarget? env info = some target)
    (hAttempt : Handoff.attempt env server.transport.serverHandle target message.descriptor
      server.session = ⟨.error failure, session, calls⟩)
    (hRollback : ∀ s pid, (f s).rollback pid = f (s.rollback pid))
    (mirrors : Attach.Mirrors f
      (Attach.run env server.options.defaults server.options.launch.headless 0 server.session
        server.transport info)
      (Attach.run env server.options.defaults server.options.launch.headless (issued calls).length session
        server.transport info)) :
    Mirrors f (server.undelegated.dispatch env message) (server.dispatch env message) := by
  have hReaching := Handoff.reaching_attempt env server.transport.serverHandle target message.descriptor
    server.session
  rw [hAttempt] at hReaching
  have hosted : Mirrors f (server.undelegated.counted.hostLocally env 0 message info)
      ((server.declined target failure session).hostLocally env (issued calls).length message info) :=
    mirrors_hostLocally hRollback rfl mirrors
  rw [dispatch_undelegated hRequest hInfo]
  simp only [dispatch, hRequest]
  rw [connect_of_fellBack hInfo hTarget hAttempt]
  refine ⟨hosted.completion_eq, hosted.session_eq, hosted.transport_eq, hosted.shuttingDown_eq, ?_⟩
  rw [reaching_append, hReaching, List.nil_append, hosted.reaching_eq]

/-! The three courses that a process takes after a handoff that failed. -/

section

variable {request : ConnectMessage} {info : ConnectInfo} {target : Clsid} {failure : Handoff.Error}
  {calls : List Call} (consistent : server.session.Consistent)
  (hRequest : message.request = .connect request)
  (hInfo : ConnectInfo.ofMessage message.descriptor request = .ok info)
  (hTarget : server.handoffTarget? env info = some target)

include consistent hRequest hInfo hTarget

/-- An attempt that fails before it gives the wake event away leaves no trace where there is one. -/
theorem kept_of_failed {event : RawHandle}
    (hAttempt : Handoff.attempt env server.transport.serverHandle target message.descriptor
      server.session = ⟨.error failure, server.session, calls⟩)
    (hEvent : server.session.wakeEvent = some event) :
    Mirrors id (server.undelegated.dispatch env message) (server.dispatch env message) ∧
      (server.dispatch env message).server.session.wakeEvent = some event := by
  have mirrors : Mirrors id (server.undelegated.dispatch env message) (server.dispatch env message) :=
    mirrors_fellBack hRequest hInfo hTarget hAttempt (fun _ _ => rfl) (Attach.mirrors_of_hold
      ((BringUp.holdWakeEvent_of_some hEvent).trans (BringUp.holdWakeEvent_of_some hEvent).symm))
  refine ⟨mirrors, ?_⟩
  rw [mirrors.session_eq, id, dispatch_undelegated hRequest hInfo]
  exact server.undelegated.counted.wakeEvent_hostLocally consistent hEvent

/-- Where there is none, hosting makes one, under a later number if the attempt opened handles. -/
theorem created_of_failed
    (hAttempt : Handoff.attempt env server.transport.serverHandle target message.descriptor
      server.session = ⟨.error failure, server.session, calls⟩)
    (hNone : server.session.wakeEvent = none) :
    Mirrors (if succeeds env.system.createEvent then (·.rewoken (env.system.issue (issued calls).length))
      else id) (server.undelegated.dispatch env message) (server.dispatch env message) := by
  have hDown := initialized_of_handoffTarget? hTarget
  cases hCreate : env.system.createEvent with
  | error reason =>
      have hFails (created : Nat) : BringUp.holdWakeEvent env.system created server.session =
          (.error (.bringUpFailed reason.message), [.createEvent none]) := by
        simp only [BringUp.holdWakeEvent, hNone, hCreate]
      exact mirrors_fellBack hRequest hInfo hTarget hAttempt (fun _ _ => rfl)
        (Attach.mirrors_of_hold ((hFails _).trans (hFails _).symm))
  | ok _ =>
      -- The session after the attempt is the one before it, with the event that it had.
      have hSecond : BringUp.holdWakeEvent env.system (issued calls).length
          { server.session with wakeEvent := server.session.wakeEvent } = (.ok _, _) :=
        BringUp.holdWakeEvent_of_none hNone hCreate
      exact mirrors_fellBack hRequest hInfo hTarget hAttempt (fun s pid => s.rollback_rewoken _ pid)
        (Attach.mirrors_run consistent hDown (BringUp.holdWakeEvent_of_none hNone hCreate) hSecond)

/-- An attempt that fails at the relay has given the wake event away, and hosting makes another. -/
theorem renewed_of_unrelayed
    (hAttempt : Handoff.attempt env server.transport.serverHandle target message.descriptor
      server.session = ⟨.error failure, { server.session with wakeEvent := none }, calls⟩)
    (hCreate : env.system.createEvent = .ok ()) :
    Mirrors (·.rewoken (env.system.issue (issued calls).length)) (server.undelegated.dispatch env message)
      (server.dispatch env message) := by
  obtain ⟨event, first, hFirst⟩ := BringUp.holdWakeEvent_ok 0 server.session hCreate
  exact mirrors_fellBack hRequest hInfo hTarget hAttempt (fun s pid => s.rollback_rewoken _ pid)
    (Attach.mirrors_run consistent (initialized_of_handoffTarget? hTarget) hFirst
      (BringUp.holdWakeEvent_of_none rfl hCreate))

end

/-- A handoff that fails leaves the state, the answer and what clients see as if it had never been attempted.
A wake event that was there is still the same and open. Only if the relay could not be started after the handler
had accepted is that event closed, and a new one stands where it would have stood. -/
theorem failed_handoff_as_if_undelegated {request : ConnectMessage} {info : ConnectInfo} {target : Clsid}
    {failure : Handoff.Error} {session : Session} {calls : List Call} (reachable : Reachable server)
    (hRequest : message.request = .connect request)
    (hInfo : ConnectInfo.ofMessage message.descriptor request = .ok info)
    (hTarget : server.handoffTarget? env info = some target)
    (hAttempt : Handoff.attempt env server.transport.serverHandle target message.descriptor
      server.session = ⟨.error failure, session, calls⟩) :
    let plain := server.undelegated.dispatch env message
    let served := server.dispatch env message
    let renewed := env.system.issue (issued calls).length
    ((∀ reason, failure ≠ .relay reason) →
      (∀ event, server.session.wakeEvent = some event →
        Mirrors id plain served ∧ served.server.session.wakeEvent = some event ∧
          openAfter {event} served.calls = some {event}) ∧
      (server.session.wakeEvent = none →
        Mirrors (if succeeds env.system.createEvent then (·.rewoken renewed) else id) plain served)) ∧
    (∀ reason, failure = .relay reason → env.system.createEvent = .ok () →
      Mirrors (·.rewoken renewed) plain served ∧
        openAfter server.session.held served.calls = some {renewed} ∧
        ∀ event, server.session.wakeEvent = some event → .close event ∈ served.calls) := by
  intro plain served renewed
  have consistent := reachable.consistent
  have leads : Leads server.session.held served.calls served.server.session.held := by
    simp only [served, dispatch, hRequest]
    exact connects_connect.leads consistent
  cases Handoff.attempts_of_attempt hAttempt with
  | failed hExchange =>
      have negotiates := Handoff.negotiates_negotiate env server.transport.serverHandle target
        message.descriptor (server.session.wakeEvent.getD .null)
      rw [hExchange] at negotiates
      refine ⟨fun _ => ⟨fun event hEvent => ?_, created_of_failed consistent hRequest hInfo hTarget hAttempt⟩,
        fun reason hRelay => absurd hRelay (negotiates.ne_relay reason)⟩
      obtain ⟨mirrors, hKept⟩ := kept_of_failed consistent hRequest hInfo hTarget hAttempt hEvent
      refine ⟨mirrors, hKept, ?_⟩
      have hOpen := leads.openAfter_eq
      rw [Session.held, Session.held, hEvent, hKept] at hOpen
      exact hOpen
  | unrelayed =>
      refine ⟨fun hOther => absurd rfl (hOther _), fun _ _ hCreate => ?_⟩
      have mirrors := renewed_of_unrelayed consistent hRequest hInfo hTarget hAttempt hCreate
      refine ⟨mirrors, ?_, fun event hEvent => ?_⟩
      · rw [leads.openAfter_eq, mirrors.session_eq]
        rfl
      · simp only [served, dispatch, hRequest]
        rw [connect_of_fellBack hInfo hTarget hAttempt]
        refine List.mem_append_left _ (List.mem_append_left _ (List.mem_append_right _ ?_))
        simp [hEvent]

def refusing : Environment := { willing 1 with takeOver := fun _ => .error "not now" }

def relayless : Environment := { willing 1 with startRelay := .error "no thread" }

theorem failed_handoff_as_if_undelegated_twice :
    Mirrors id (delegating.undelegated.dispatch refusing (connecting 7))
        (delegating.dispatch refusing (connecting 7)) ∧
      Mirrors (·.rewoken ⟨5⟩) (delegating.undelegated.dispatch relayless (connecting 7))
        (delegating.dispatch relayless (connecting 7)) := by
  have started : Started delegating := ⟨quiet, _, _, _, _, start_delegating⟩
  have hRequest : (connecting 7).request = .connect _ := rfl
  have hRefused : Handoff.attempt refusing delegating.transport.serverHandle ⟨1⟩ (connecting 7).descriptor
    delegating.session = ⟨.error (.rejected "not now"), _, _⟩ := rfl
  have hUnrelayed : Handoff.attempt relayless delegating.transport.serverHandle ⟨1⟩
    (connecting 7).descriptor delegating.session = ⟨.error (.relay "no thread"), _, _⟩ := rfl
  obtain ⟨hKept, -⟩ := failed_handoff_as_if_undelegated started.reachable hRequest rfl rfl hRefused
  obtain ⟨-, hRenewed⟩ := failed_handoff_as_if_undelegated started.reachable hRequest rfl rfl hUnrelayed
  exact ⟨((hKept (by simp)).1 _ rfl).1, (hRenewed _ rfl rfl).1⟩

end Server

end ConsoleHost
