import ConsoleHost.Proofs.Handoff.Approach
import ConsoleHost.Proofs.Server.Verdict

/-! When the session of a connecting process is offered to a handler, and what the handler gets. The conditions
stand in the request, in how the server was launched and set up, and in the session. -/

namespace ConsoleHost

open Call

theorem succeeds_iff {ε : Type} {answer : Except ε Unit} : succeeds answer = true ↔ answer = .ok () := by
  cases answer <;> simp [succeeds]

/-- A client asks for a hidden window with the flag and one of five ways of showing it. -/
theorem ConnectInfo.requestsHiddenWindow_eq_false_iff {info : ConnectInfo} :
    info.requestsHiddenWindow = false ↔
      ¬(info.startupFlags &&& 1 ≠ 0 ∧ info.showWindow ∈ ([0, 2, 6, 7, 11] : List UInt16)) := by
  rw [← Bool.not_eq_true, requestsHiddenWindow, Bool.and_eq_true, bne_iff_ne, List.contains_iff_mem]
  rfl

namespace Handoff

/-- An attach message that says what the header of a request says. Its identifier comes in two halves. -/
structure AttachMessage.Carries (m : AttachMessage) (d : Descriptor) : Prop where
  identifier_eq : m.idHigh.toUInt32.toNat * UInt32.size + m.idLow.toNat = d.identifier.toNat
  process_eq : m.process = d.process
  object_eq : m.object = d.object
  function_eq : m.function = d.function
  inputSize_eq : m.inputSize = d.inputSize
  outputSize_eq : m.outputSize = d.outputSize

/-- An attach message carries the fields of the descriptor. -/
theorem carries_ofDescriptor (d : Descriptor) : (AttachMessage.ofDescriptor d).Carries d :=
  ⟨identifier_ofDescriptor d, rfl, rfl, rfl, rfl, rfl⟩

variable {env : Environment} {serverHandle : Option RawHandle} {target : Clsid} {descriptor : Descriptor}
  {wakeEvent : RawHandle} {calls : List Call}

/-- A handler accepts if it is ready and takes the offer. -/
theorem accepts_iff : accepts env serverHandle target descriptor wakeEvent = true ↔
    Ready env serverHandle target ∧ ∃ server, serverHandle = some server ∧
      env.takeOver (offerOf env descriptor server wakeEvent) = .ok () := by
  have hPipe : env.system.createPipe.isOk = true ↔ ∃ signals, env.system.createPipe = .ok signals := by
    cases env.system.createPipe <;> simp [Except.isOk, Except.toBool]
  simp only [accepts, Ready, Bool.and_eq_true, succeeds_iff, hPipe, Option.any_eq_true]
  constructor
  · rintro ⟨⟨⟨hActivate, hSignals⟩, hProcess⟩, server, hServer, hTaken⟩
    exact ⟨⟨hActivate, ⟨server, hServer⟩, hSignals, hProcess⟩, server, hServer, hTaken⟩
  · rintro ⟨⟨hActivate, -, hSignals, hProcess⟩, server, hServer, hTaken⟩
    exact ⟨⟨⟨hActivate, hSignals⟩, hProcess⟩, server, hServer, hTaken⟩

/-- A handler accepts exactly if it is offered the session and takes it. -/
theorem Approaches.accepts_iff_taken
    (approaches : Approaches env serverHandle target descriptor wakeEvent calls) :
    accepts env serverHandle target descriptor wakeEvent = true ↔
      ∃ offer ∈ offers calls, env.takeOver offer = .ok () := by
  rw [accepts_iff]
  rcases approaches.offers_cases with ⟨hMissing, hNone⟩ | ⟨hReady, server, hServer, hOne⟩
  · simp [hMissing, hNone]
  · subst hServer
    simp only [hReady, hOne, true_and, Option.some.injEq, exists_eq_left', List.mem_singleton, exists_eq_left]

end Handoff

namespace Server

variable {env : Environment} {server : Server} {message : Message} {target : Clsid}

/-- The conditions under which the session of a connecting process is to be offered to a handler. -/
structure OffersTo (env : Environment) (server : Server) (message : Message) (target : Clsid) : Prop where
  /-- A valid connect request of a process that is starting up with a window that is not to be hidden. -/
  requested : ∃ request info, message.request = .connect request ∧
    ConnectInfo.ofMessage message.descriptor request = .ok info ∧
    request.consoleApp = true ∧ request.windowVisible = true ∧
    ¬(request.startupFlags &&& 1 ≠ 0 ∧ request.showWindow ∈ ([0, 2, 6, 7, 11] : List UInt16))
  interactive : env.system.interactive = true
  down : server.session.initialized = false
  enabled : server.options.launch.disabled = false
  not_hostHere : server.options.launch.hostHere = false
  not_headless : server.options.launch.headless = false
  not_isTarget : server.options.launch.isTarget = false
  target_eq : server.options.target = some target

/-- A connect is offered to the target of the options where no condition declines it. -/
theorem handoffTarget?_eq_some_iff {info : ConnectInfo} : server.handoffTarget? env info = some target ↔
    (Handoff.Conditions.forConnect info server.options.launch env.system.interactive
      server.session.initialized server.options.target.isSome).decline? = none ∧
      server.options.target = some target := by
  simp only [handoffTarget?]
  split
  · next hNone => simp [hNone]
  · next hSome => simp [hSome]

/-- The session is offered to a handler under these conditions and under no others. -/
theorem offersTo_iff : server.OffersTo env message target ↔
    ∃ request info, message.request = .connect request ∧
      ConnectInfo.ofMessage message.descriptor request = .ok info ∧
      server.handoffTarget? env info = some target := by
  simp only [handoffTarget?_eq_some_iff, Handoff.Conditions.decline?_eq_none_iff,
    Handoff.Conditions.forConnect, Handoff.Conditions.mk.injEq,
    ConnectInfo.requestsHiddenWindow_eq_false_iff]
  constructor
  · rintro ⟨⟨request, info, hRequest, hInfo, hApp, hVisible, hShown⟩, hInteractive, hDown, hEnabled, hHost,
      hHeadless, hTarget, hRegistered⟩
    have copies := ConnectInfo.copies_of_ofMessage hInfo
    rw [← copies.startupFlags_eq, ← copies.showWindow_eq] at hShown
    exact ⟨request, info, hRequest, hInfo, ⟨hInteractive, hEnabled, hHost, hDown, copies.consoleApp_eq.trans hApp,
      hHeadless, hRegistered ▸ rfl, hTarget, copies.windowVisible_eq.trans hVisible, hShown⟩, hRegistered⟩
  · rintro ⟨request, info, hRequest, hInfo, ⟨hInteractive, hEnabled, hHost, hDown, hApp, hHeadless, -, hTarget,
      hVisible, hShown⟩, hRegistered⟩
    have copies := ConnectInfo.copies_of_ofMessage hInfo
    rw [copies.startupFlags_eq, copies.showWindow_eq] at hShown
    exact ⟨⟨request, info, hRequest, hInfo, copies.consoleApp_eq.symm.trans hApp,
        copies.windowVisible_eq.symm.trans hVisible, hShown⟩,
      hInteractive, hDown, hEnabled, hHost, hHeadless, hTarget, hRegistered⟩

/-! A connect request under these conditions approaches the handler, and what is done to host the process after a
failure does not. No other request approaches anybody. -/

/-- Hosting a connect here makes no call of a handoff. -/
theorem apart_hostLocally {issued : Nat} {info : ConnectInfo} :
    Apart (server.hostLocally env issued message info).calls :=
  apart_of_serves fun _ hMem => (hosts_of_mem_hostLocally hMem).imp_right And.right

/-- A message that is offered makes the calls of a handoff in their order. -/
theorem approaches_dispatch (offersTo : server.OffersTo env message target) :
    Handoff.Approaches env server.transport.serverHandle target message.descriptor
      (server.session.wakeEvent.getD .null) (server.dispatch env message).calls := by
  obtain ⟨request, info, hRequest, hInfo, hTarget⟩ := offersTo_iff.1 offersTo
  simp only [dispatch, hRequest]
  rcases hAttempt : Handoff.attempt env server.transport.serverHandle target message.descriptor
    server.session with ⟨failure | representative, session, calls⟩
  · rw [connect_of_fellBack hInfo hTarget hAttempt]
    exact (Handoff.attempts_of_attempt hAttempt).approaches.append apart_hostLocally
  · rw [connect_of_handedOver hInfo hTarget hAttempt]
    exact (Handoff.attempts_of_attempt hAttempt).approaches.append (by simp [Apart, activated?, offered?])

/-- A message that is not offered makes none of them. -/
theorem apart_dispatch (hNone : ∀ target, ¬server.OffersTo env message target) :
    Apart (server.dispatch env message).calls := by
  by_cases hRequest : ∃ request, message.request = .connect request
  · obtain ⟨request, hRequest⟩ := hRequest
    have connects : Connects env server message request (server.dispatch env message) := connects_dispatch hRequest
    generalize server.dispatch env message = served at connects
    cases connects with
    | invalid => exact List.forall_mem_nil _
    | hosted => exact apart_hostLocally
    | handedOver hInfo hTarget => exact absurd (offersTo_iff.2 ⟨_, _, hRequest, hInfo, hTarget⟩) (hNone _)
    | fellBack hInfo hTarget => exact absurd (offersTo_iff.2 ⟨_, _, hRequest, hInfo, hTarget⟩) (hNone _)
  · exact apart_of_serves fun _ hMem =>
      .inl (serves_of_mem_dispatch (fun request hSome => hRequest ⟨request, hSome⟩) hMem)

/-- Where handoff is disabled, no message is offered. -/
theorem apart_of_disabled (h : server.options.launch.disabled = true) : Apart (server.dispatch env message).calls := by
  apply apart_dispatch
  intro target offersTo
  cases h.symm.trans offersTo.enabled

theorem handoffTarget?_of_disabled {info : ConnectInfo} (h : server.options.launch.disabled = true) :
    server.handoffTarget? env info = none := by
  cases hSome : server.handoffTarget? env info with
  | none => rfl
  | some target =>
      obtain ⟨hOffered, -⟩ := handoffTarget?_eq_some_iff.1 hSome
      have hConditions := (Handoff.Conditions.decline?_eq_none_iff _).1 hOffered
      have hEnabled : server.options.launch.disabled = false := congrArg (·.handoffDisabled) hConditions
      cases h.symm.trans hEnabled

theorem hostLocally_ne_handedOff {issued : Nat} {info : ConnectInfo} :
    (server.hostLocally env issued message info).completion ≠ .handedOff := by
  have hosts : Hosts env server issued message info (server.hostLocally env issued message info) :=
    hosts_hostLocally
  generalize server.hostLocally env issued message info = served at hosts
  cases hosts <;> simp

/-- Only a connect is ever handed over. -/
theorem dispatch_ne_handedOff (hRequest : ∀ request, message.request ≠ .connect request) :
    (server.dispatch env message).completion ≠ .handedOff := by
  simp only [dispatch]
  split
  · simp only [create]
    split <;> simp
  · simp only [close]
    split <;> simp
  · next hConnect => exact absurd hConnect (hRequest _)
  · simp only [disconnect]
    split <;> simp
  · simp only [api]
    split
    · simp
    · cases (env.answer server.session message).1 <;> simp

/-- A session goes to a handler that accepts it, and only once the relay has been started. -/
theorem handedOff_iff : (server.dispatch env message).completion = .handedOff ↔
    ∃ target, server.OffersTo env message target ∧
      Handoff.accepts env server.transport.serverHandle target message.descriptor
        (server.session.wakeEvent.getD .null) = true ∧ env.startRelay = .ok () := by
  constructor
  · intro hHandedOff
    by_cases hRequest : ∃ request, message.request = .connect request
    · obtain ⟨request, hRequest⟩ := hRequest
      have connects : Connects env server message request (server.dispatch env message) :=
        connects_dispatch hRequest
      generalize server.dispatch env message = served at connects hHandedOff
      cases connects with
      | invalid => cases hHandedOff
      | hosted => exact absurd hHandedOff hostLocally_ne_handedOff
      | handedOver hInfo hTarget hAttempt =>
          obtain ⟨hAccepts, hRelay⟩ := Handoff.accepts_of_attempt_ok hAttempt
          exact ⟨_, offersTo_iff.2 ⟨_, _, hRequest, hInfo, hTarget⟩, hAccepts, succeeds_iff.1 hRelay⟩
      | fellBack _ _ _ hServed =>
          subst hServed
          exact absurd hHandedOff hostLocally_ne_handedOff
    · exact absurd hHandedOff (dispatch_ne_handedOff fun request hSome => hRequest ⟨request, hSome⟩)
  · rintro ⟨target, offersTo, hAccepts, hRelay⟩
    obtain ⟨request, info, hRequest, hInfo, hTarget⟩ := offersTo_iff.1 offersTo
    simp only [dispatch, hRequest]
    rcases hAttempt : Handoff.attempt env server.transport.serverHandle target message.descriptor
      server.session with ⟨failure | representative, session, calls⟩
    · rcases Handoff.accepts_of_attempt_error hAttempt with ⟨hRefused, -⟩ | ⟨-, hUnrelayed, -⟩
      · cases hAccepts.symm.trans hRefused
      · cases (succeeds_iff.2 hRelay).symm.trans hUnrelayed
    · rw [connect_of_handedOver hInfo hTarget hAttempt]

/-! What can be read off the calls of a request. They are those of an approach or apart from all handlers. -/

/-- A message is offered to one target at most. -/
theorem OffersTo.eq_iff {other : Clsid} (offersTo : server.OffersTo env message target) :
    server.OffersTo env message other ↔ other = target :=
  ⟨fun also => Option.some.inj (also.target_eq.symm.trans offersTo.target_eq), fun h => h ▸ offersTo⟩

/-- Every message is offered to one target or to none. -/
theorem approaches_or_apart (env : Environment) (server : Server) (message : Message) :
    (∃ target, server.OffersTo env message target ∧
      Handoff.Approaches env server.transport.serverHandle target message.descriptor
        (server.session.wakeEvent.getD .null) (server.dispatch env message).calls) ∨
    ((∀ target, ¬server.OffersTo env message target) ∧ Apart (server.dispatch env message).calls) := by
  by_cases hSome : ∃ target, server.OffersTo env message target
  · obtain ⟨target, offersTo⟩ := hSome
    exact .inl ⟨target, offersTo, approaches_dispatch offersTo⟩
  · rw [not_exists] at hSome
    exact .inr ⟨hSome, apart_dispatch hSome⟩

/-- A message activates at most one handler. -/
theorem length_activations_le : (activations (server.dispatch env message).calls).length ≤ 1 := by
  rcases approaches_or_apart env server message with ⟨_, -, approaches⟩ | ⟨-, apart⟩
  · exact Nat.le_of_eq (congrArg List.length approaches.activations_eq)
  · rw [apart.activations_eq]
    exact Nat.zero_le 1

/-- The handler that a message activates is the target it is offered to. -/
theorem mem_activations_iff :
    target ∈ activations (server.dispatch env message).calls ↔ server.OffersTo env message target := by
  rcases approaches_or_apart env server message with ⟨_, offersTo, approaches⟩ | ⟨hNone, apart⟩
  · rw [approaches.activations_eq, List.mem_singleton, offersTo.eq_iff]
  · rw [apart.activations_eq]
    exact iff_of_false List.not_mem_nil (hNone target)

/-- A message makes at most one offer. -/
theorem length_offers_le : (offers (server.dispatch env message).calls).length ≤ 1 := by
  rcases approaches_or_apart env server message with ⟨_, -, approaches⟩ | ⟨-, apart⟩
  · rcases approaches.offers_cases with ⟨-, hNone⟩ | ⟨-, _, -, hOne⟩
    · rw [hNone]
      exact Nat.zero_le 1
    · exact Nat.le_of_eq (congrArg List.length hOne)
  · rw [apart.offers_eq]
    exact Nat.zero_le 1

/-- An offer is made where the handler is ready for it. -/
theorem offers_ne_nil_iff : offers (server.dispatch env message).calls ≠ [] ↔
    ∃ target, server.OffersTo env message target ∧ Handoff.Ready env server.transport.serverHandle target := by
  rcases approaches_or_apart env server message with ⟨_, offersTo, approaches⟩ | ⟨hNone, apart⟩
  · simp only [offersTo.eq_iff, exists_eq_left]
    rcases approaches.offers_cases with ⟨hMissing, hNone⟩ | ⟨hReady, _, -, hOne⟩
    · exact iff_of_false (fun h => h hNone) hMissing
    · exact iff_of_true (hOne ▸ List.cons_ne_nil _ _) hReady
  · exact iff_of_false (fun h => h apart.offers_eq) fun ⟨target, offersTo, _⟩ => hNone target offersTo

/-- An offer comes right after its preparations. -/
theorem prepared_dispatch {before after : List Call} {offer : Handoff.Offer}
    (h : (server.dispatch env message).calls = before ++ .offer offer :: after) :
    (∃ target, before = Handoff.preparations target offer) ∧ server.transport.serverHandle = some offer.server ∧
      offer = Handoff.offerOf env message.descriptor offer.server (server.session.wakeEvent.getD .null) := by
  rcases approaches_or_apart env server message with ⟨target, -, approaches⟩ | ⟨-, apart⟩
  · obtain ⟨hBefore, hRest⟩ := approaches.prepared h
    exact ⟨⟨target, hBefore⟩, hRest⟩
  · have hMade : .offer offer ∈ (server.dispatch env message).calls :=
      h ▸ List.mem_append_right before (List.mem_cons_self ..)
    exact absurd hMade (not_mem_offer_of_offers apart.offers_eq)

/-- A message is handed over exactly if its offer is taken and the relay starts. -/
theorem handedOff_iff_taken : (server.dispatch env message).completion = .handedOff ↔
    (∃ offer ∈ offers (server.dispatch env message).calls, env.takeOver offer = .ok ()) ∧
      env.startRelay = .ok () := by
  rw [handedOff_iff]
  rcases approaches_or_apart env server message with ⟨_, offersTo, approaches⟩ | ⟨hNone, apart⟩
  · simp only [offersTo.eq_iff, exists_eq_left, approaches.accepts_iff_taken]
  · rw [apart.offers_eq]
    refine iff_of_false (fun ⟨target, offersTo, _⟩ => hNone target offersTo) fun ⟨⟨_, hMem, _⟩, _⟩ => ?_
    exact List.not_mem_nil hMem

/-- Under `OffersTo`, and only then, a handler is activated, and no request activates two. There is an offer if
and only if everything that it takes can be had. It comes right after its preparations and carries what they
brought, the wake event of the session, and the header of the request. The request ends in a handoff if and only
if the offer is taken and the relay starts. -/
theorem handoff_offered_in_order (env : Environment) (server : Server) (message : Message) :
    let served := server.dispatch env message
    (activations served.calls).length ≤ 1 ∧
      (∀ target, target ∈ activations served.calls ↔ server.OffersTo env message target) ∧
      (offers served.calls).length ≤ 1 ∧
      (offers served.calls ≠ [] ↔ ∃ target, server.OffersTo env message target ∧
        Handoff.Ready env server.transport.serverHandle target) ∧
      (∀ before offer after, served.calls = before ++ .offer offer :: after →
        (∃ target, before = Handoff.preparations target offer) ∧
          server.transport.serverHandle = some offer.server ∧
          offer.wakeEvent = server.session.wakeEvent.getD .null ∧
          offer.message.Carries message.descriptor) ∧
      (served.completion = .handedOff ↔
        (∃ offer ∈ offers served.calls, env.takeOver offer = .ok ()) ∧ env.startRelay = .ok ()) := by
  intro served
  refine ⟨length_activations_le, fun _ => mem_activations_iff, length_offers_le, offers_ne_nil_iff,
    fun before offer after hCalls => ?_, handedOff_iff_taken⟩
  obtain ⟨hBefore, hServer, hOffer⟩ := prepared_dispatch hCalls
  refine ⟨hBefore, hServer, congrArg (·.wakeEvent) hOffer, ?_⟩
  rw [congrArg (·.message) hOffer]
  exact Handoff.carries_ofDescriptor message.descriptor

/-- A terminal that is busy is approached for a first process, but not for one whose window starts hidden. -/
example :
    let busy := { willing 1 with takeOver := fun _ => .error "busy" }
    let hidden := { connecting 7 with request := .connect ⟨true, true, 0, "", "", "", 0x101, 0, .zero, .zero⟩ }
    activations (delegating.dispatch busy (connecting 7)).calls = [⟨1⟩] ∧
      activations (delegating.dispatch busy hidden).calls = [] :=
  ⟨rfl, rfl⟩

end Server

end ConsoleHost
