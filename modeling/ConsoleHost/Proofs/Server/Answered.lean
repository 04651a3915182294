import ConsoleHost.Proofs.Server.Ledger
import ConsoleHost.Proofs.Server.Members

/-! Every request is answered once. Its reply goes to the transport, or back to the caller, or the request is
deferred or handed over, and there is no request of which two of these are true. -/

namespace ConsoleHost

open Call

/-- What is delivered is what was handed over and got through. -/
theorem Call.delivered_eq_sent (calls : List Call) :
    delivered calls = (sent calls).filterMap fun (reply, succeeded) => if succeeded then some reply else none := by
  rw [sent, List.filterMap_filterMap]
  refine List.filterMap_congr fun call _ => ?_
  cases call with
  | complete reply succeeded => cases succeeded <;> rfl
  | _ => rfl

/-- A completion is on record exactly if it is delivered. -/
theorem Loopback.completed_complete (t : Loopback) (reply : Reply) :
    (t.complete reply).completed = t.completed ++ if t.delivers then [reply] else [] := by
  simp only [complete]
  split
  · rfl
  · exact (List.append_nil _).symm

/-- The API layer answers the request it is asked about or defers it. Collaborators change the registry by its own
operations only, which leave it sound. -/
structure Environment.Fair (env : Environment) : Prop where
  identifier_answer : ∀ s message reply, (env.answer s message).1 = some reply →
    reply.identifier = message.descriptor.identifier
  sound_answer : ∀ s message, s.registry.Sound → (env.answer s message).2.registry.Sound
  sound_depart : ∀ s pid, s.registry.Sound → (env.depart s pid).2.registry.Sound

namespace Session

variable {s s' : Session} {request : CreateRequest} {handle : HandleId}

/-- A handle that is opened is new. -/
theorem Opens.handle?_eq (opens : s.Opens request handle s') (sound : s.registry.Sound) :
    s.registry.handle? handle = none ∧ (s'.registry.handle? handle).isSome = true := by
  refine ⟨?_, ?_⟩
  · cases opens with
    | endpoint => exact sound.handle?_nextHandle
    | newOutput => exact sound.handle?_nextHandle
  · cases opens with
    | endpoint _ _ hOpen =>
        obtain ⟨object, hObject, _⟩ := Registry.eq_of_openHandle hOpen
        have hHandle := Registry.handle?_openHandle sound hObject hOpen s.registry.nextHandle
        exact Option.isSome_of_eq_some (hHandle.trans (if_pos rfl))
    | @newOutput buffer window _ _ _ hOpen =>
        obtain ⟨object, hObject, _⟩ := Registry.eq_of_openHandle hOpen
        have hHandle := Registry.handle?_openHandle (sound.create (.output buffer window) false) hObject hOpen
          s.registry.nextHandle
        exact Option.isSome_of_eq_some (hHandle.trans (if_pos rfl))

theorem Opens.sound (opens : s.Opens request handle s') (sound : s.registry.Sound) : s'.registry.Sound := by
  cases opens with
  | endpoint _ _ hOpen => exact sound.openHandle hOpen
  | newOutput _ _ hOpen => exact (sound.create _ false).openHandle hOpen

theorem sound_unpin? {registry : Registry} (sound : registry.Sound) (id : Option ObjectId) :
    (unpin? registry id).Sound := by
  cases id with
  | none => exact sound
  | some id => exact sound.unpin id

theorem sound_teardown (sound : s.registry.Sound) : s.teardown.registry.Sound := by
  have emptied : (s.processes.pids.foldl rollback s).registry.Sound :=
    List.foldlRecOn (motive := (·.registry.Sound)) s.processes.pids rollback sound
      fun _ sound pid _ => sound_rollback sound pid
  exact sound_unpin? (sound_unpin? emptied _) _

end Session

namespace Server

def Step.Fair : Step → Prop
  | dispatch env _ => env.Fair
  | shutdown | failNext _ | focus _ => True

/-- The handle that a create request was answered with: it is new, it is open while the reply is on its way, and it
stays open exactly if the reply gets through. -/
structure Created (server : Server) (request : CreateRequest) (handle : HandleId) (succeeded : Bool)
    (served : Served) : Prop where
  unused : server.session.registry.handle? handle = none
  opened : ∃ session, server.session.openObject request = (.ok handle, session) ∧
    (session.registry.handle? handle).isSome = true
  remains : (served.server.session.registry.handle? handle).isSome = succeeded

/-- How a request was answered: what was handed to the transport for it and how it was finished. -/
structure Answered (server : Server) (message : Message) (served : Served) : Prop where
  once : (sent served.calls).length + (if served.completion = .completed then 0 else 1) = 1
  identifier_eq : ∀ reply, (∃ succeeded, (reply, succeeded) ∈ sent served.calls) ∨
    served.completion = .reply reply → reply.identifier = message.descriptor.identifier
  sent_success : ∀ reply succeeded, (reply, succeeded) ∈ sent served.calls → reply.status = .success ∧
    ((∃ request handle, message.request = .create request ∧ reply.payload = [] ∧
        reply.information = handle.number ∧ Created server request handle succeeded served) ∨
      ∃ request, message.request = .connect request ∧ reply.information = 24 ∧ reply.payload.length = 24)
  refused : ∀ reply, served.completion = .reply reply →
    (∃ request, message.request = .create request) ∨ (∃ request, message.request = .connect request) →
      reply.status.isSuccess = false
  disconnected : message.request = .disconnect → served.completion = .reply (message.reply .success)
  handedOff : served.completion = .handedOff → ∃ request, message.request = .connect request
  pending : served.completion = .pending → ∃ call, message.request = .api call
  completed_eq : served.server.transport.completed = server.transport.completed ++ delivered served.calls
  lost : ∀ reply, (reply, false) ∈ sent served.calls →
    served.server.transport.completed = server.transport.completed

variable {env : Environment} {server : Server} {message : Message} {served : Served}

/-- Of the server before a connect request, only its transport matters. -/
theorem Answered.congr {other : Server} {request : ConnectMessage} (answered : Answered other message served)
    (hRequest : message.request = .connect request) (hTransport : other.transport = server.transport) :
    Answered server message served :=
  { answered with
    sent_success := by
      intro reply succeeded hMem
      obtain ⟨hStatus, ⟨_, _, hCreate, _⟩ | hConnect⟩ := answered.sent_success reply succeeded hMem
      · cases hRequest.symm.trans hCreate
      · exact ⟨hStatus, .inr hConnect⟩
    completed_eq := hTransport ▸ answered.completed_eq
    lost := hTransport ▸ answered.lost }

section

variable (hSent : sent served.calls = []) (hTransport : served.server.transport = server.transport)

include hSent hTransport

/-- A message that sends nothing adds nothing to the completions. -/
theorem completed_of_unsent :
    served.server.transport.completed = server.transport.completed ++ delivered served.calls := by
  rw [delivered_eq_sent, hSent, hTransport, List.filterMap_nil, List.append_nil]

/-- A request whose reply goes back to the caller. -/
theorem answered_of_reply {reply : Reply} (hReply : served.completion = .reply reply)
    (hIdentifier : reply.identifier = message.descriptor.identifier)
    (hRefused : (∃ request, message.request = .create request) ∨ (∃ request, message.request = .connect request) →
      reply.status.isSuccess = false)
    (hDisconnect : message.request = .disconnect → reply = message.reply .success) :
    Answered server message served where
  once := by simp [hReply, hSent]
  identifier_eq := by
    intro other h
    simp only [hSent, List.not_mem_nil, exists_false, false_or, hReply, Completion.reply.injEq] at h
    exact h ▸ hIdentifier
  sent_success := by simp [hSent]
  refused := by
    intro other hSame h
    cases hReply.symm.trans hSame
    exact hRefused h
  disconnected h := hDisconnect h ▸ hReply
  handedOff h := by cases hReply.symm.trans h
  pending h := by cases hReply.symm.trans h
  completed_eq := completed_of_unsent hSent hTransport
  lost := by simp [hSent]

/-- A connect that is handed over is answered by the handler, not here. -/
theorem answered_of_handedOff {request : ConnectMessage} (hCompletion : served.completion = .handedOff)
    (hRequest : message.request = .connect request) : Answered server message served where
  once := by simp [hCompletion, hSent]
  identifier_eq := by simp [hCompletion, hSent]
  sent_success := by simp [hSent]
  refused := by simp [hCompletion]
  disconnected := by simp [hRequest]
  handedOff _ := ⟨request, hRequest⟩
  pending := by simp [hCompletion]
  completed_eq := completed_of_unsent hSent hTransport
  lost := by simp [hSent]

/-- A call that is left pending is answered later by the layer that took it. -/
theorem answered_of_pending {call : ApiCall} (hCompletion : served.completion = .pending)
    (hRequest : message.request = .api call) : Answered server message served where
  once := by simp [hCompletion, hSent]
  identifier_eq := by simp [hCompletion, hSent]
  sent_success := by simp [hSent]
  refused := by simp [hCompletion]
  disconnected := by simp [hRequest]
  handedOff := by simp [hCompletion]
  pending _ := ⟨call, hRequest⟩
  completed_eq := completed_of_unsent hSent hTransport
  lost := by simp [hSent]

end

/-- A request whose reply goes to the transport. -/
theorem answered_of_sent {reply : Reply} {succeeded : Bool} (hCompletion : served.completion = .completed)
    (hSent : sent served.calls = [(reply, succeeded)])
    (hIdentifier : reply.identifier = message.descriptor.identifier) (hStatus : reply.status = .success)
    (hKind : (∃ request handle, message.request = .create request ∧ reply.payload = [] ∧
        reply.information = handle.number ∧ Created server request handle succeeded served) ∨
      ∃ request, message.request = .connect request ∧ reply.information = 24 ∧ reply.payload.length = 24)
    (hTransport : served.server.transport.completed =
      server.transport.completed ++ if succeeded then [reply] else []) : Answered server message served where
  once := by simp [hCompletion, hSent]
  identifier_eq := by
    intro other h
    simp only [hSent, hCompletion, List.mem_singleton, Prod.mk.injEq, reduceCtorEq, or_false] at h
    obtain ⟨_, rfl, _⟩ := h
    exact hIdentifier
  sent_success := by
    intro other _ hMem
    rw [hSent] at hMem
    cases List.mem_singleton.1 hMem
    exact ⟨hStatus, hKind⟩
  refused := by simp [hCompletion]
  disconnected h := by
    rcases hKind with ⟨_, _, hCreate, _⟩ | ⟨_, hConnect, _⟩
    · cases h.symm.trans hCreate
    · cases h.symm.trans hConnect
  handedOff := by simp [hCompletion]
  pending := by simp [hCompletion]
  completed_eq := by
    rw [delivered_eq_sent, hSent, hTransport]
    cases succeeded <;> rfl
  lost := by
    intro other hMem
    rw [hSent] at hMem
    cases List.mem_singleton.1 hMem
    exact hTransport.trans (List.append_nil _)

/-- A connect that succeeds is answered once, with its tokens, delivered or not. -/
theorem answered_of_connected {request : ConnectMessage} {tokens : ConnectionTokens} {succeeded : Bool}
    (hRequest : message.request = .connect request) (hCompletion : served.completion = .completed)
    (hSent : sent served.calls = [(connectedReply message tokens, succeeded)])
    (hTransport : served.server.transport.completed =
      server.transport.completed ++ if succeeded then [connectedReply message tokens] else []) :
    Answered server message served :=
  answered_of_sent hCompletion hSent rfl rfl (.inr ⟨request, hRequest, rfl, tokens.length_toBytes⟩) hTransport

/-! The requests one by one. -/

/-- A create request is completed with its handle or replied to with the status of the refusal. -/
theorem answered_create {request : CreateRequest} (hRequest : message.request = .create request)
    (sound : server.session.registry.Sound) : Answered server message (server.create message request) := by
  obtain ⟨refusal, hOpen⟩ | ⟨session, hOpen, opens⟩ := Session.openObject_cases sound request
  · simp only [create, hOpen]
    exact answered_of_reply rfl rfl rfl rfl (fun _ => refusal.isSuccess_status) (by simp [hRequest])
  · obtain ⟨hNew, hLive⟩ := opens.handle?_eq sound
    simp only [create, hOpen]
    refine answered_of_sent rfl rfl rfl rfl
      (.inl ⟨request, server.session.registry.nextHandle, hRequest, rfl, rfl, hNew,
        ⟨session, hOpen, hLive⟩, ?_⟩) ?_
    · cases (server.transport.publish (.handle server.session.registry.nextHandle)).delivers with
      | true => exact hLive
      | false => simp [Registry.handle?_discardHandle]
    · exact Loopback.completed_complete ..

theorem answered_close (hRequest : message.request = .close) :
    Answered server message (server.close message) :=
  answered_of_reply rfl rfl rfl rfl (by simp [hRequest]) (by simp [hRequest])

theorem answered_disconnect (hRequest : message.request = .disconnect) :
    Answered server message (server.disconnect env message) := by
  simp only [disconnect]
  split
  · exact answered_of_reply rfl rfl rfl rfl (by simp [hRequest]) fun _ => rfl
  · exact answered_of_reply (sent_of_reaching (env.reaching_accessibilityCalls ..)) rfl rfl rfl
      (by simp [hRequest]) fun _ => rfl

/-- An API call is answered in place unless the layer that handles it keeps it pending. -/
theorem answered_api (fair : env.Fair) {call : ApiCall} (hRequest : message.request = .api call) :
    Answered server message (server.api env message) := by
  simp only [api]
  split
  · exact answered_of_reply rfl rfl rfl rfl (by simp [hRequest]) (by simp [hRequest])
  · split
    · next reply hReply =>
        exact answered_of_reply rfl rfl rfl (fair.identifier_answer _ _ _ hReply) (by simp [hRequest])
          (by simp [hRequest])
    · exact answered_of_pending rfl rfl rfl hRequest

/-- Hosting a process, after calls that reach no client. -/
theorem Hosts.answered {issued : Nat} {info : ConnectInfo} {request : ConnectMessage}
    (hosts : Hosts env server issued message info served) (hRequest : message.request = .connect request)
    {before : List Call} (hBefore : reaching before = []) :
    Answered server message { served with calls := before ++ served.calls } := by
  have exits := Attach.exits_run env server.options.defaults server.options.launch.headless issued
    server.session server.transport info
  cases hosts with
  | @refused refusal session transport calls hAttach =>
      rw [hAttach] at exits
      have hNothing : reaching calls = [] ∧ transport = server.transport := by
        cases exits with
        | known => exact ⟨rfl, rfl⟩
        | refused _ _ hCalls => exact ⟨hCalls, rfl⟩
      refine answered_of_reply (sent_of_reaching ?_) hNothing.2 rfl rfl (fun _ => refusal.isSuccess_status)
        (by simp [hRequest])
      rw [reaching_append, hBefore, hNothing.1]
      rfl
  | @delivered _ _ _ calls hAttach hDelivers =>
      rw [hAttach] at exits
      cases exits with
      | attached hPublished _ _ hCalls =>
          subst hPublished
          have hSent (reply : Reply) : sent (before ++ (calls ++ [.complete reply true])) = [(reply, true)] := by
            rw [← sent_reaching, reaching_published hBefore hCalls]
            rfl
          refine answered_of_connected hRequest rfl (hSent _) ?_
          rw [Loopback.completed_complete, hDelivers]
          rfl
  | @undelivered _ _ _ calls hAttach hDelivers =>
      rw [hAttach] at exits
      cases exits with
      | attached hPublished _ _ hCalls =>
          subst hPublished
          have hSent (reply : Reply) : sent (before ++ (calls ++ [.complete reply false])) = [(reply, false)] := by
            rw [← sent_reaching, reaching_published hBefore hCalls]
            rfl
          refine answered_of_connected hRequest rfl (hSent _) ?_
          rw [Loopback.completed_complete, hDelivers]
          rfl

/-- A connect is answered once, whichever way it ends. -/
theorem Connects.answered {request : ConnectMessage} (connects : Connects env server message request served)
    (hRequest : message.request = .connect request) : Answered server message served := by
  cases connects with
  | @invalid refusal =>
      exact answered_of_reply rfl rfl rfl rfl (fun _ => refusal.isSuccess_status) (by simp [hRequest])
  | @hosted info =>
      have hosted : Hosts env server.counted 0 message info _ := hosts_hostLocally
      have hNothing : reaching [] = [] := rfl
      exact (hosted.answered hRequest hNothing).congr hRequest rfl
  | handedOver _ _ hAttempt =>
      refine answered_of_handedOff (sent_of_reaching ?_) rfl rfl hRequest
      rw [reaching_append, Handoff.reaching_of_attempt hAttempt]
      rfl
  | @fellBack info target failure session calls _ _ _ hAttempt hServed =>
      subst hServed
      have hosted : Hosts env (server.declined target failure session) (Call.issued calls).length message info _ :=
        hosts_hostLocally
      exact (hosted.answered hRequest (Handoff.reaching_of_attempt hAttempt)).congr hRequest rfl

/-- Every message is answered once. -/
theorem answered_dispatch (fair : env.Fair) (sound : server.session.registry.Sound) :
    Answered server message (server.dispatch env message) := by
  rw [dispatch]
  split
  · next hRequest => exact answered_create hRequest sound
  · next hRequest => exact answered_close hRequest
  · next hRequest => exact connects_connect.answered hRequest
  · next hRequest => exact answered_disconnect hRequest
  · next hRequest => exact answered_api fair hRequest

/-! Registries stay sound along a run, whatever is answered. -/

/-- Hosting a connect keeps the registry sound. -/
theorem Hosts.sound {issued : Nat} {info : ConnectInfo} (hosts : Hosts env server issued message info served)
    (sound : server.session.registry.Sound) : served.server.session.registry.Sound := by
  have exits := Attach.exits_run env server.options.defaults server.options.launch.headless issued
    server.session server.transport info
  cases hosts with
  | refused hAttach =>
      rw [hAttach] at exits
      cases exits with
      | known => exact sound
      | refused _ seats => exact Session.sound_rollback (seats.sound sound) _
  | delivered hAttach =>
      rw [hAttach] at exits
      cases exits with
      | attached _ _ seats => exact seats.sound sound
  | undelivered hAttach =>
      rw [hAttach] at exits
      cases exits with
      | attached _ _ seats => exact Session.sound_rollback (seats.sound sound) _

theorem Connects.sound {request : ConnectMessage} (connects : Connects env server message request served)
    (sound : server.session.registry.Sound) : served.server.session.registry.Sound := by
  cases connects with
  | invalid => exact sound
  | hosted => exact hosts_hostLocally.sound sound
  | handedOver _ _ hAttempt => exact (Handoff.registry_of_attempt hAttempt).symm ▸ sound
  | fellBack _ _ hAttempt hServed =>
      subst hServed
      exact hosts_hostLocally.sound ((Handoff.registry_of_attempt hAttempt).symm ▸ sound)

theorem sound_create (sound : server.session.registry.Sound) (request : CreateRequest) :
    (server.create message request).server.session.registry.Sound := by
  obtain ⟨refusal, hOpen⟩ | ⟨session, hOpen, opens⟩ := Session.openObject_cases sound request
  · simp only [create, hOpen]
    exact sound
  · have opened := opens.sound sound
    simp only [create, hOpen]
    split
    · exact opened
    · exact opened.discardHandle _

theorem sound_close (sound : server.session.registry.Sound) :
    (server.close message).server.session.registry.Sound := by
  cases hHandle : server.session.registry.handle? message.descriptor.handle with
  | none =>
      simp only [close, Registry.closeHandle_of_not_open hHandle]
      exact sound
  | some h =>
      simp only [close, Registry.closeHandle_of_open hHandle]
      exact sound.discardHandle _

/-- Every step keeps the registry sound. -/
theorem sound_turn {step : Step} (fair : step.Fair) (sound : server.session.registry.Sound) :
    (server.turn step).server.session.registry.Sound := by
  cases step with
  | dispatch env message =>
      simp only [turn, dispatch]
      split
      · exact sound_create sound _
      · exact sound_close sound
      · exact connects_connect.sound sound
      · simp only [disconnect]
        split
        · exact sound
        · exact fair.sound_depart _ _ sound
      · simp only [api]
        split
        · exact sound
        · exact fair.sound_answer _ _ sound
  | shutdown => exact Session.sound_teardown sound
  | failNext => exact sound
  | focus => exact sound

variable {steps : List Step}

/-- The registry is sound after any steps. -/
theorem sound_follow (fair : ∀ step ∈ steps, step.Fair) (sound : server.session.registry.Sound) :
    (server.follow steps).session.registry.Sound := by
  induction steps generalizing server with
  | nil => exact sound
  | cons step rest ih =>
      obtain ⟨hStep, hRest⟩ := List.forall_mem_cons.1 fair
      exact ih hRest (sound_turn hStep sound)

/-- What a step hands to the transport is delivered in the same step or not at all. -/
theorem completed_turn {step : Step} (fair : step.Fair) (sound : server.session.registry.Sound) :
    (server.turn step).server.transport.completed =
      server.transport.completed ++ delivered (server.turn step).calls := by
  cases step with
  | dispatch env message => exact (answered_dispatch fair sound).completed_eq
  | shutdown =>
      simp only [turn, shutdown]
      cases server.session.wakeEvent with
      | none => exact (List.append_nil _).symm
      | some event => exact (List.append_nil _).symm
  | failNext => exact (List.append_nil _).symm
  | focus => exact (List.append_nil _).symm

/-- What is on record after any steps is what was before them and what was delivered in them, in order. -/
theorem completed_follow (fair : ∀ step ∈ steps, step.Fair) (sound : server.session.registry.Sound) :
    (server.follow steps).transport.completed = server.transport.completed ++
      (server.turns steps).flatMap fun turn => delivered turn.calls := by
  induction steps generalizing server with
  | nil => exact (List.append_nil _).symm
  | cons step rest ih =>
      obtain ⟨hStep, hRest⟩ := List.forall_mem_cons.1 fair
      calc
        ((server.turn step).server.follow rest).transport.completed =
            (server.turn step).server.transport.completed ++
              ((server.turn step).server.turns rest).flatMap fun turn => delivered turn.calls :=
          ih hRest (sound_turn hStep sound)
        _ = _ := by rw [completed_turn hStep sound, List.append_assoc, turns, List.flatMap_cons]

theorem Started.empty_transport (started : Started server) :
    server.session.registry.Sound ∧ server.transport.completed = [] := by
  obtain ⟨options, capacity, serverHandle, event, rfl⟩ := started.eq_fresh
  exact ⟨Registry.sound_empty, rfl⟩

/-- In every run every request is answered once, or deferred, or handed over. The replies that were delivered are
those that were handed to the transport while their own requests were served, in that order, so that a reply that
was lost then is not delivered later. -/
theorem requests_answered_once {first : Server} (started : Started first)
    (fair : ∀ step ∈ steps, step.Fair) :
    (∀ before step later, steps = before ++ step :: later →
      match step with
      | .dispatch env message =>
        Answered (first.follow before) message ((first.follow before).dispatch env message)
      | .shutdown | .failNext _ | .focus _ => sent ((first.follow before).turn step).calls = []) ∧
      (first.follow steps).transport.completed =
        (first.turns steps).flatMap fun turn => delivered turn.calls := by
  obtain ⟨sound, hEmpty⟩ := started.empty_transport
  refine ⟨fun before step later hEq => ?_, ?_⟩
  · subst hEq
    obtain ⟨hBefore, hRest⟩ := List.forall_mem_append.1 fair
    have hSound := sound_follow hBefore sound
    cases step with
    | dispatch env message => exact answered_dispatch (hRest _ (List.mem_cons_self ..)) hSound
    | shutdown =>
        simp only [turn, shutdown]
        cases (first.follow before).session.wakeEvent with
        | none => rfl
        | some event => rfl
    | failNext => rfl
    | focus => rfl
  · rw [completed_follow fair sound, hEmpty, List.nil_append]

/-- The reply to the first of two create requests is lost. -/
def lossy : List Step :=
  [.dispatch quiet (connecting 7), .failNext 1, .dispatch quiet creating, .dispatch quiet creating]

theorem fair_quiet : quiet.Fair where
  identifier_answer s message reply h := by
    cases h
    rfl
  sound_answer _ _ := id
  sound_depart s pid sound := by
    rw [show quiet.depart = Session.depart from rfl, Session.snd_depart]
    exact Session.sound_rollback sound pid

theorem requests_answered_once_lossy :
    ((begun.follow (lossy.take 2)).dispatch quiet creating).server.transport.completed =
        (begun.follow (lossy.take 2)).transport.completed ∧
      (begun.follow lossy).transport.completed =
        [connectedReply (connecting 7) ⟨0x100000001, 1, 2⟩, ⟨2, .success, 4, []⟩] := by
  have fair : ∀ step ∈ lossy, step.Fair := by
    simp [lossy, Step.Fair, fair_quiet]
  obtain ⟨answered, hCompleted⟩ := requests_answered_once started_begun fair
  have lost := (answered (lossy.take 2) (.dispatch quiet creating) _ rfl).lost
  refine ⟨lost ⟨2, .success, 3, []⟩ (by decide), hCompleted.trans (by decide)⟩

end Server

end ConsoleHost
