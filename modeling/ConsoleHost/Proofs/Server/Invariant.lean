import ConsoleHost.Proofs.Server.Connect
import ConsoleHost.Proofs.Server.Run
import ConsoleHost.Proofs.Session.Open

/-! The session of a running server is consistent, whatever is requested and however the collaborators
behave. Each kind of request has one lemma, and runs follow by induction. -/

namespace ConsoleHost

namespace Server

variable {env : Environment} {server : Server} {message : Message}

/-- Hosting a connect keeps the session consistent. -/
theorem Hosts.consistent {issued : Nat} {info : ConnectInfo} {served : Served}
    (hosts : Hosts env server issued message info served) (consistent : server.session.Consistent) :
    served.server.session.Consistent := by
  cases hosts with
  | refused hAttach => exact (Attach.ends_of_run consistent hAttach).consistent consistent
  | delivered hAttach => exact (Attach.ends_of_run consistent hAttach).consistent consistent
  | undelivered hAttach =>
      exact ((Attach.ends_of_run consistent hAttach).consistent consistent).rollback info.pid

/-- A handoff attempt keeps the session consistent: it may only hold a new wake event. -/
theorem consistent_attempt {info : ConnectInfo} {target : Clsid} {result : Handoff.Attempt}
    (consistent : server.session.Consistent)
    (hTarget : server.handoffTarget? env info = some target)
    (hAttempt : Handoff.attempt env server.transport.serverHandle target message.descriptor
      server.session = result) : result.session.Consistent := by
  rcases Handoff.session_of_attempt hAttempt with hSame | hGiven
  · rw [hSame]
    exact consistent
  · rw [hGiven]
    exact consistent.with_wakeEvent (initialized_of_handoffTarget? hTarget) none

/-- A connect keeps the session consistent, handed over or not. -/
theorem Connects.consistent {request : ConnectMessage} {served : Served}
    (connects : Connects env server message request served)
    (consistent : server.session.Consistent) : served.server.session.Consistent := by
  cases connects with
  | invalid => exact consistent
  | hosted => exact hosts_hostLocally.consistent consistent
  | handedOver _ hTarget hAttempt => exact consistent_attempt consistent hTarget hAttempt
  | fellBack _ hTarget hAttempt hServed =>
      subst hServed
      exact hosts_hostLocally.consistent (consistent_attempt consistent hTarget hAttempt)

/-! Requests that create and close change nothing in a session but its registry. -/

/-- A create request changes the registry alone, and the registry goes on. -/
theorem continues_create (consistent : server.session.Consistent) (request : CreateRequest) :
    ∃ registry, (server.create message request).server.session = { server.session with registry := registry } ∧
      server.session.registry.Continues registry := by
  obtain ⟨refusal, hOpen⟩ | ⟨session, hOpen, opens⟩ :=
    Session.openObject_cases consistent.sound request
  · simp only [create, hOpen]
    exact ⟨_, rfl, consistent.continues⟩
  · obtain ⟨registry, rfl, continues⟩ := opens.continues consistent
    simp only [create, hOpen]
    cases server.transport.publish (.handle server.session.registry.nextHandle) |>.delivers with
    | true => exact ⟨registry, rfl, continues⟩
    | false => exact ⟨_, rfl, continues.discardHandle _⟩

/-- A close request changes the registry alone, and the registry goes on. -/
theorem continues_close (consistent : server.session.Consistent) :
    ∃ registry, (server.close message).server.session = { server.session with registry := registry } ∧
      server.session.registry.Continues registry := by
  cases hHandle : server.session.registry.handle? message.descriptor.handle with
  | none =>
      simp only [close, Registry.closeHandle_of_not_open hHandle]
      exact ⟨_, rfl, consistent.continues⟩
  | some h =>
      simp only [close, Registry.closeHandle_of_open hHandle]
      exact ⟨_, rfl, consistent.continues.discardHandle _⟩

theorem consistent_create (consistent : server.session.Consistent) (request : CreateRequest) :
    (server.create message request).server.session.Consistent := by
  obtain ⟨registry, hSession, continues⟩ := continues_create consistent request
  rw [hSession]
  exact consistent.with_registry continues

theorem consistent_close (consistent : server.session.Consistent) :
    (server.close message).server.session.Consistent := by
  obtain ⟨registry, hSession, continues⟩ := continues_close consistent
  rw [hSession]
  exact consistent.with_registry continues

theorem consistent_disconnect (hStandard : env.Standard) (consistent : server.session.Consistent) :
    (server.disconnect env message).server.session.Consistent := by
  simp only [disconnect]
  split
  · exact consistent
  · next record _ =>
      simp only [hStandard.depart_eq, Session.snd_depart]
      exact consistent.rollback record.pid

/-- An API call keeps the session consistent, since the layer behind it is a standard one. -/
theorem consistent_api (hStandard : env.Standard) (consistent : server.session.Consistent) :
    (server.api env message).server.session.Consistent := by
  simp only [api]
  split
  · exact consistent
  · simp only [hStandard.session_answer]
    exact consistent

/-- Every message keeps the session consistent. -/
theorem consistent_dispatch (hStandard : env.Standard) (consistent : server.session.Consistent) :
    (server.dispatch env message).server.session.Consistent := by
  rw [dispatch]
  cases message.request with
  | create request => exact consistent_create consistent request
  | close => exact consistent_close consistent
  | connect request => exact connects_connect.consistent consistent
  | disconnect => exact consistent_disconnect hStandard consistent
  | api => exact consistent_api hStandard consistent

/-- Every step keeps the session consistent. -/
theorem consistent_turn {step : Step} (hStandard : step.Standard)
    (consistent : server.session.Consistent) : (server.turn step).server.session.Consistent := by
  cases step with
  | dispatch env message => exact consistent_dispatch hStandard consistent
  | shutdown => exact consistent.teardown
  | failNext count => exact consistent
  | focus on => exact consistent.with_focus on

/-- A consistent session stays so over any run. -/
theorem Run.consistent {first : Server} {turns : List Turn} (run : Run first turns server)
    (consistent : first.session.Consistent) : server.session.Consistent :=
  run.invariant (·.session.Consistent) consistent fun _ _ => consistent_turn

theorem Started.consistent (started : Started server) : server.session.Consistent := by
  obtain ⟨options, capacity, serverHandle, event, rfl⟩ := started.eq_fresh
  exact Session.consistent_fresh ..

theorem Reachable.consistent (reachable : Reachable server) : server.session.Consistent := by
  obtain ⟨first, turns, started, run⟩ := reachable
  exact run.consistent started.consistent

end Server

namespace Session

/-- What can be said of a session between any two steps of its server. An object that is there is held by
the session or by a handle. That a handle in turn has its object there rests on the counts of the object,
and so on their words not having started again. -/
structure WellFormed (s : Session) : Prop where
  handle_live : s.registry.Few → ∀ handle h, s.registry.handle? handle = some h →
    ∃ object, s.registry.object? h.object = some object ∧ h.kind = object.endpoint.kind
  live_iff : s.registry.Few → ∀ id, (s.registry.object? id).isSome ↔
    (∃ endpoint, s.registry.Pins id endpoint) ∨
      ∃ handle h, s.registry.handle? handle = some h ∧ h.object = id
  held : ∀ id, (s.registry.object? id).isSome →
    (∃ endpoint, s.registry.Pins id endpoint) ∨
      ∃ handle h, s.registry.handle? handle = some h ∧ h.object = id
  up : s.initialized = true → ∃ event input output buffer window,
    s.wakeEvent = some event ∧ s.input = some input ∧ s.activeOutput = some output ∧
      s.registry.Pins input (.input event) ∧ s.registry.Pins output (.output buffer window) ∧
      ∀ id endpoint, s.registry.Pins id endpoint → id = input ∨ id = output
  down : s.initialized = false → s.input = none ∧ s.activeOutput = none ∧
    (∀ id endpoint, ¬s.registry.Pins id endpoint) ∧ s.processes.records = []
  pids_nodup : s.processes.pids.Nodup
  complete : ∀ p ∈ s.processes.records, p.token.isSome ∧ p.input.isSome ∧ p.output.isSome

/-- A live object is pinned or some handle on it is open. -/
theorem Consistent.pinned_or_open {s : Session} (consistent : s.Consistent) {id : ObjectId}
    (hLive : (s.registry.object? id).isSome) :
    (∃ endpoint, s.registry.Pins id endpoint) ∨
      ∃ handle h, s.registry.handle? handle = some h ∧ h.object = id := by
  obtain ⟨object, hObject⟩ := Option.isSome_iff_exists.1 hLive
  rcases consistent.held id object hObject with hPinned | hOpen
  · exact .inl ⟨object.endpoint, (Registry.pins_iff_of_object? hObject).2 ⟨rfl, hPinned⟩⟩
  · obtain ⟨h, hMem⟩ := List.exists_mem_of_ne_nil _ hOpen
    obtain ⟨handle, hHandle, hOn⟩ := consistent.sound.mem_handlesOn_iff.1 hMem
    exact .inr ⟨handle, h, hHandle, hOn⟩

/-- While handles are few, an object is live exactly if it is pinned or some handle on it is open. -/
theorem Consistent.live_iff {s : Session} (consistent : s.Consistent) (few : s.registry.Few)
    (id : ObjectId) :
    (s.registry.object? id).isSome ↔
      (∃ endpoint, s.registry.Pins id endpoint) ∨
        ∃ handle h, s.registry.handle? handle = some h ∧ h.object = id := by
  refine ⟨consistent.pinned_or_open, ?_⟩
  rintro (⟨endpoint, counts, hObject⟩ | ⟨handle, h, hHandle, rfl⟩)
  · exact Option.isSome_of_eq_some hObject
  · obtain ⟨object, hObject, _⟩ := (consistent.sound.accurate_of_few few).handle_live handle h hHandle
    exact Option.isSome_of_eq_some hObject

theorem Consistent.wellFormed {s : Session} (consistent : s.Consistent) : s.WellFormed where
  handle_live few := (consistent.sound.accurate_of_few few).handle_live
  live_iff few := consistent.live_iff few
  held _ := consistent.pinned_or_open
  up hUp := by
    obtain ⟨event, input, output, buffer, window, hosts⟩ := consistent.up hUp
    refine ⟨event, input, output, buffer, window, hosts.wakeEvent_eq, hosts.input_eq,
      hosts.activeOutput_eq, (hosts.pins_iff _ _).2 (.inl ⟨rfl, rfl⟩),
      (hosts.pins_iff _ _).2 (.inr ⟨rfl, rfl⟩), fun id endpoint hPins => ?_⟩
    exact ((hosts.pins_iff id endpoint).1 hPins).imp And.left And.left
  down hDown :=
    have down := consistent.down hDown
    ⟨down.input_eq, down.activeOutput_eq, down.not_pins, down.records_eq⟩
  pids_nodup := consistent.pids_nodup
  complete := consistent.complete

end Session

namespace Server

/-- The session of a server is well formed after every step of every run: between requests that connect,
create, close and disconnect, whether they are served, refused or not delivered, with handoffs that are
taken or not, and through any number of shutdowns with handles still open. -/
theorem session_wellFormed {server : Server} (reachable : Reachable server) :
    server.session.WellFormed :=
  reachable.consistent.wellFormed

/-- A session that was brought up again after a shutdown, with a buffer of the first time still open. -/
def reconnected : Server :=
  begun.follow [.dispatch quiet (connecting 7), .dispatch quiet creating, .shutdown,
    .dispatch quiet (connecting 7)]

theorem reachable_reconnected : Reachable reconnected :=
  reachable_quiet (by simp)

theorem session_wellFormed_reconnected :
    Reachable reconnected ∧ reconnected.session.registry.Few ∧ reconnected.session.WellFormed ∧
      reconnected.session.initialized = true ∧
      reconnected.session.registry.handles.keys = [⟨3⟩, ⟨4⟩, ⟨5⟩] :=
  ⟨reachable_reconnected, by decide, session_wellFormed reachable_reconnected, by decide, by decide⟩

end Server

end ConsoleHost
