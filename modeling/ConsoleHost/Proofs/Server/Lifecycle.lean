import ConsoleHost.Proofs.Server.Invariant
import Mathlib.Data.List.Induction

/-! When a server begins to shut down. There are three occasions for it: it is shut down, a session is handed over, or
the last process disconnects. It never runs again, and nothing else that happens to its processes stops it. -/

namespace ConsoleHost.Server

/-- What makes a server begin to shut down. -/
inductive Stops (server : Server) : Step → Prop where
  | shutdown : Stops server .shutdown
  | handedOver {env : Environment} {message : Message} {request : ConnectMessage}
      (hRequest : message.request = .connect request)
      (hCompletion : (server.dispatch env message).completion = .handedOff) : Stops server (.dispatch env message)
  | lastLeft {env : Environment} {message : Message} (hRequest : message.request = .disconnect)
      (hSome : server.session.processes.records ≠ [])
      (hNone : (server.dispatch env message).server.session.processes.records = []) :
      Stops server (.dispatch env message)

variable {env : Environment} {server : Server} {message : Message} {request : ConnectMessage} {step : Step}

/-- A connect that is hosted here does not stop the server. -/
theorem Hosts.runs_on {issued : Nat} {info : ConnectInfo} {served : Served}
    (hosts : Hosts env server issued message info served) :
    served.server.shuttingDown = server.shuttingDown ∧ served.completion ≠ .handedOff := by
  cases hosts with
  | refused => exact ⟨rfl, nofun⟩
  | delivered => exact ⟨rfl, nofun⟩
  | undelivered => exact ⟨rfl, nofun⟩

/-- A connect stops the server exactly if it is handed over. -/
theorem Connects.shuttingDown_iff {served : Served} (connects : Connects env server message request served) :
    served.server.shuttingDown = true ↔ server.shuttingDown = true ∨ served.completion = .handedOff := by
  cases connects with
  | invalid => exact (or_iff_left nofun).symm
  | @hosted info =>
      have hosts : Hosts env server.counted 0 message info _ := hosts_hostLocally
      obtain ⟨hSame, hHere⟩ := hosts.runs_on
      rw [hSame, or_iff_left hHere]
      rfl
  | handedOver => exact iff_of_true rfl (.inr rfl)
  | @fellBack info target failure session calls _ _ _ _ hServed =>
      subst hServed
      have hosts : Hosts env (server.declined target failure session) (Call.issued calls).length message info _ :=
        hosts_hostLocally
      obtain ⟨hSame, hHere⟩ := hosts.runs_on
      simp only [hSame, or_iff_left hHere]
      rfl

theorem shuttingDown_create (request : CreateRequest) :
    (server.create message request).server.shuttingDown = server.shuttingDown := by
  simp only [create]
  split
  · rfl
  · rfl

theorem shuttingDown_close : (server.close message).server.shuttingDown = server.shuttingDown := rfl

theorem shuttingDown_api : (server.api env message).server.shuttingDown = server.shuttingDown := by
  simp only [api]
  split
  · rfl
  · rfl

/-- A disconnect stops the server exactly if it takes out the last record. -/
theorem shuttingDown_disconnect (hStandard : env.Standard) (consistent : server.session.Consistent) :
    (server.disconnect env message).server.shuttingDown = true ↔ server.shuttingDown = true ∨
      (server.session.processes.records ≠ [] ∧
        (server.disconnect env message).server.session.processes.records = []) := by
  simp only [disconnect]
  split
  · exact (or_iff_left fun hLeft => hLeft.1 hLeft.2).symm
  · next record hFind =>
      have hMem : record ∈ server.session.processes.records := List.mem_of_find?_eq_some hFind
      have hLast := consistent.fst_depart_eq_lastLeft_iff hMem
      simp only [hStandard.depart_eq, Session.snd_depart, Bool.or_eq_true, ← hLast,
        and_iff_right (List.ne_nil_of_mem hMem)]
      refine or_congr_right ?_
      split
      · next hLeft => exact iff_of_true rfl hLeft
      · next hRemain => exact iff_of_false Bool.false_ne_true hRemain

/-- Only what a disconnect request does to the records decides whether it stops the server. -/
theorem stops_disconnect_iff (hRequest : message.request = .disconnect) :
    server.Stops (.dispatch env message) ↔ server.session.processes.records ≠ [] ∧
      (server.dispatch env message).server.session.processes.records = [] := by
  constructor
  · intro stops
    cases stops with
    | handedOver hConnect => cases hRequest.symm.trans hConnect
    | lastLeft _ hSome hNone => exact ⟨hSome, hNone⟩
  · rintro ⟨hSome, hNone⟩
    exact .lastLeft hRequest hSome hNone

theorem stops_connect_iff (hRequest : message.request = .connect request) :
    server.Stops (.dispatch env message) ↔ (server.dispatch env message).completion = .handedOff := by
  constructor
  · intro stops
    cases stops with
    | handedOver _ hCompletion => exact hCompletion
    | lastLeft hDisconnect => cases hRequest.symm.trans hDisconnect
  · exact .handedOver hRequest

/-- Messages other than connects and disconnects never stop the server. -/
theorem not_stops_of_request (hConnect : ∀ request, message.request ≠ .connect request)
    (hDisconnect : message.request ≠ .disconnect) : ¬server.Stops (.dispatch env message) := by
  intro stops
  cases stops with
  | handedOver hRequest => exact hConnect _ hRequest
  | lastLeft hRequest => exact hDisconnect hRequest

/-- After a message the server is shutting down exactly if it was before or the message stops it. -/
theorem shuttingDown_dispatch (hStandard : env.Standard) (consistent : server.session.Consistent) :
    (server.dispatch env message).server.shuttingDown = true ↔
      server.shuttingDown = true ∨ server.Stops (.dispatch env message) := by
  cases hRequest : message.request with
  | create request =>
      have hRuns : ¬server.Stops (.dispatch env message) :=
        not_stops_of_request (by simp [hRequest]) (by simp [hRequest])
      simp only [or_iff_left hRuns, dispatch, hRequest, shuttingDown_create]
  | close =>
      have hRuns : ¬server.Stops (.dispatch env message) :=
        not_stops_of_request (by simp [hRequest]) (by simp [hRequest])
      simp only [or_iff_left hRuns, dispatch, hRequest, shuttingDown_close]
  | connect request =>
      rw [stops_connect_iff hRequest]
      exact (connects_dispatch hRequest).shuttingDown_iff
  | disconnect =>
      rw [stops_disconnect_iff hRequest]
      simp only [dispatch, hRequest]
      exact shuttingDown_disconnect hStandard consistent
  | api call =>
      have hRuns : ¬server.Stops (.dispatch env message) :=
        not_stops_of_request (by simp [hRequest]) (by simp [hRequest])
      simp only [or_iff_left hRuns, dispatch, hRequest, shuttingDown_api]

/-- After a step the server is shutting down exactly if it was before or the step stops it. -/
theorem shuttingDown_turn (hStandard : step.Standard) (consistent : server.session.Consistent) :
    (server.turn step).server.shuttingDown = true ↔ server.shuttingDown = true ∨ server.Stops step := by
  cases step with
  | dispatch env message => exact shuttingDown_dispatch hStandard consistent
  | shutdown => exact iff_of_true rfl (.inr .shutdown)
  | failNext count => exact (or_iff_left nofun).symm
  | focus on => exact (or_iff_left nofun).symm

/-- A disconnect under a token that addresses nobody does not stop the server. -/
theorem not_stops_of_unaddressed (hRequest : message.request = .disconnect)
    (hNobody : server.session.processes.findByToken? message.descriptor.processToken = none) :
    ¬server.Stops (.dispatch env message) := by
  rw [stops_disconnect_iff hRequest]
  rintro ⟨hSome, hNone⟩
  refine hSome ?_
  simpa only [dispatch, hRequest, disconnect, hNobody] using hNone

/-- One of these steps stops the server that the steps before it lead to. -/
def StoppedBy (first : Server) (steps : List Step) : Prop :=
  ∃ before step later, steps = before ++ step :: later ∧ (first.follow before).Stops step

/-- One more step has stopped the server if the steps before it had or it does itself. -/
theorem stoppedBy_concat {first : Server} {steps : List Step} :
    first.StoppedBy (steps ++ [step]) ↔ first.StoppedBy steps ∨ (first.follow steps).Stops step := by
  constructor
  · rintro ⟨before, stopper, later, hSteps, stops⟩
    rcases List.eq_nil_or_concat later with rfl | ⟨rest, newest, rfl⟩
    · obtain ⟨rfl, hSame⟩ := List.append_inj' hSteps rfl
      cases hSame
      exact .inr stops
    · rw [List.concat_eq_append, ← List.cons_append, ← List.append_assoc] at hSteps
      exact .inl ⟨before, stopper, rest, (List.append_inj' hSteps rfl).1, stops⟩
  · rintro (⟨before, stopper, later, rfl, stops⟩ | stops)
    · exact ⟨before, stopper, later ++ [step], by simp, stops⟩
    · exact ⟨steps, step, [], rfl, stops⟩

/-- Whether a server is shutting down after several steps is decided by the server it was and by these steps. -/
theorem shuttingDown_follow {first : Server} {steps : List Step} (reachable : Reachable first)
    (hStandard : ∀ step ∈ steps, step.Standard) :
    (first.follow steps).shuttingDown = true ↔ first.shuttingDown = true ∨ first.StoppedBy steps := by
  induction steps using List.reverseRecOn with
  | nil =>
      refine (or_iff_left ?_).symm
      rintro ⟨before, step, later, hSteps, -⟩
      simp at hSteps
  | append_singleton steps step ih =>
      rw [List.forall_mem_append] at hStandard
      have before := ih hStandard.1
      have consistent := (reachable.follow hStandard.1).consistent
      have hLast : step.Standard := hStandard.2 step (List.mem_singleton_self step)
      rw [follow_append, stoppedBy_concat, ← or_assoc, ← before]
      exact shuttingDown_turn hLast consistent

/-- A server that has just started is not shutting down. -/
theorem Started.shuttingDown_eq (started : Started server) : server.shuttingDown = false := by
  obtain ⟨options, capacity, serverHandle, event, rfl⟩ := started.eq_fresh
  rfl

/-- A server is shutting down after some steps exactly if in one of them it was shut down, it handed its session over,
or its last process disconnected, and it is from then on. So a disconnect request that leaves somebody or addresses
nobody, and a connect request that is not handed over, such as one that is undone for the only process, change
nothing in that. -/
theorem shuttingDown_iff_stoppedBy {first : Server} {steps : List Step} (started : Started first)
    (hStandard : ∀ step ∈ steps, step.Standard) :
    let last := first.follow steps
    (last.shuttingDown = true ↔ first.StoppedBy steps) ∧
      (∀ before later, steps = before ++ later →
        (first.follow before).shuttingDown = true → last.shuttingDown = true) ∧
      (∀ env message, env.Standard → message.request = .disconnect →
        last.session.processes.findByToken? message.descriptor.processToken = none ∨
          (last.dispatch env message).server.session.processes.records ≠ [] →
        (last.dispatch env message).server.shuttingDown = last.shuttingDown) ∧
      ∀ env message request, message.request = .connect request →
        (last.dispatch env message).completion ≠ .handedOff →
        (last.dispatch env message).server.shuttingDown = last.shuttingDown := by
  intro last
  have consistent := (started.reachable.follow hStandard).consistent
  refine ⟨?_, ?_, ?_, ?_⟩
  · rw [shuttingDown_follow started.reachable hStandard, started.shuttingDown_eq]
    exact or_iff_right Bool.false_ne_true
  · rintro before later rfl hStopped
    rw [List.forall_mem_append] at hStandard
    have hStays := (shuttingDown_follow (started.reachable.follow hStandard.1) hStandard.2).2 (.inl hStopped)
    rwa [← follow_append] at hStays
  · intro env message hEnv hRequest hRemains
    have hRuns : ¬last.Stops (.dispatch env message) := by
      rcases hRemains with hNobody | hOthers
      · exact not_stops_of_unaddressed hRequest hNobody
      · rw [stops_disconnect_iff hRequest]
        exact fun hLeft => hOthers hLeft.2
    exact Bool.eq_iff_iff.2 ((shuttingDown_dispatch hEnv consistent).trans (or_iff_left hRuns))
  · intro env message request hRequest hHere
    exact Bool.eq_iff_iff.2 ((connects_dispatch hRequest).shuttingDown_iff.trans (or_iff_left hHere))

def disconnecting (token : UInt64) : Message := ⟨⟨3, token, 0, 0, 0, 0⟩, .disconnect⟩

/-- A process is not told that it is connected, two others are, one of them leaves, a token is of nobody, the other
leaves, and one more comes. -/
def emptying : List Step :=
  [.failNext 1, .dispatch quiet (connecting 7), .dispatch quiet (connecting 7), .dispatch quiet (connecting 9),
    .dispatch quiet (disconnecting 0x100000003), .dispatch quiet (disconnecting 0x100000001),
    .dispatch quiet (disconnecting 0x100000002), .dispatch quiet (connecting 9)]

theorem shuttingDown_iff_stoppedBy_emptied :
    ¬begun.StoppedBy (emptying.take 6) ∧ begun.StoppedBy emptying := by
  have hStandard : ∀ step ∈ emptying, step.Standard := standard_quiet (by simp [emptying])
  have hEarlier : ∀ step ∈ emptying.take 6, step.Standard := fun step hMem =>
    hStandard step (List.mem_of_mem_take hMem)
  have hRunning : (begun.follow (emptying.take 6)).shuttingDown = false := by decide
  have hStopped : (begun.follow emptying).shuttingDown = true := by decide
  constructor
  · rw [← (shuttingDown_iff_stoppedBy started_begun hEarlier).1, hRunning]
    exact Bool.false_ne_true
  · exact (shuttingDown_iff_stoppedBy started_begun hStandard).1.1 hStopped

end ConsoleHost.Server
