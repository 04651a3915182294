import ConsoleHost.Proofs.Server.OpenHandles
import ConsoleHost.Proofs.Server.Offers
import ConsoleHost.Proofs.Server.Stable

/-! The wake event in the hands of a handler. A session has the event that was created for it last, until a handler
confirms that it takes the session over, or the server is shut down. Handlers that are approached after that, and
before there is a new event, are given the null handle for it. -/

namespace ConsoleHost

namespace Call

/-- The wake event after a call: a new one, or none once a handler has confirmed. -/
def wakeEvent (held : Option RawHandle) : Call → Option RawHandle
  | createEvent (some event) => some event
  | representative _ => none
  | _ => held

def wakeEventAfter (held : Option RawHandle) (calls : List Call) : Option RawHandle :=
  calls.foldl wakeEvent held

variable {held : Option RawHandle} {calls more : List Call} {event : RawHandle}

theorem wakeEventAfter_append : wakeEventAfter held (calls ++ more) = wakeEventAfter (wakeEventAfter held calls) more :=
  List.foldl_append

/-- Calls that serve a client do not touch the wake event. -/
theorem wakeEventAfter_of_serves (h : ∀ call ∈ calls, call.serves = true) : wakeEventAfter held calls = held := by
  induction calls with
  | nil => rfl
  | cons call rest ih =>
      obtain ⟨hCall, hRest⟩ := List.forall_mem_cons.1 h
      have hSame : call.wakeEvent held = held := by
        cases call with
        | control => rfl
        | accessibility => rfl
        | publish => rfl
        | complete => rfl
        | api => rfl
        | _ => cases hCall
      rw [wakeEventAfter, List.foldl_cons, hSame]
      exact ih hRest

/-- The wake event was there before, or has been created since. -/
theorem createEvent_mem_of_wakeEventAfter (h : wakeEventAfter held calls = some event) :
    held = some event ∨ .createEvent (some event) ∈ calls := by
  induction calls generalizing held with
  | nil => exact .inl h
  | cons call rest ih =>
      rcases ih h with hCall | hLater
      · cases call with
        | createEvent issued =>
            cases issued with
            | none => exact .inl hCall
            | some new =>
                cases hCall
                exact .inr (List.mem_cons_self ..)
        | representative => cases hCall
        | _ => exact .inl hCall
      · exact .inr (List.mem_cons_of_mem _ hLater)

end Call

open Call

variable {env : Environment}

/-! Bring-up creates the event if there is none. -/

/-- The event that bring-up holds is the one that its calls made, or the one that was there. -/
theorem BringUp.wakeEvent_holdWakeEvent {system : System} {issued : Nat} {s : Session}
    {result : Except Refusal RawHandle} {calls : List Call} (h : holdWakeEvent system issued s = (result, calls)) :
    wakeEventAfter s.wakeEvent calls = match result with
      | .ok event => some event
      | .error _ => s.wakeEvent := by
  simp only [holdWakeEvent] at h
  split at h
  · next hEvent =>
      cases h
      exact hEvent
  · split at h <;> cases h
    · rfl
    · rfl

theorem BringUp.wakeEvent_openWindow {held : Option RawHandle} (headless : Bool) (title : String) (size : Size) :
    wakeEventAfter held (openWindow env headless title size).2 = held := by
  simp only [openWindow]
  split
  · rfl
  · split <;> rfl

/-- The wake event after bring-up is what its calls leave. -/
theorem BringUp.Ends.wakeEvent_after {defaults : SessionDefaults} {headless : Bool} {issued : Nat} {s : Session}
    {info : ConnectInfo} {o : Outcome} (ends : Ends env defaults headless issued s info o) :
    o.session.wakeEvent = wakeEventAfter s.wakeEvent o.calls := by
  have hWindow {held : Option RawHandle} : wakeEventAfter held
      (openWindow env headless (title defaults info) (windowSize defaults info)).2 = held :=
    wakeEvent_openWindow headless _ _
  cases ends with
  | already => rfl
  | noEvent _ hEvent => exact (wakeEvent_holdWakeEvent hEvent).symm
  | noWindow _ hEvent hRefused =>
      rw [hRefused] at hWindow
      rw [wakeEventAfter_append, wakeEvent_holdWakeEvent hEvent, hWindow]
      rfl
  | raised _ hEvent hShown =>
      rw [hShown] at hWindow
      rw [wakeEventAfter_append, wakeEvent_holdWakeEvent hEvent, hWindow]
      rfl

namespace Attach

variable {defaults : SessionDefaults} {headless : Bool} {issued : Nat} {s u : Session} {t : Loopback}
  {info : ConnectInfo} {o : Outcome} {held : Option RawHandle}

theorem wakeEvent_greeting : wakeEventAfter held (greeting env info) = held :=
  wakeEventAfter_of_serves fun _ hMem => (List.mem_append.1 hMem).elim env.serves_of_mem_controlCalls
    env.serves_of_mem_accessibilityCalls

theorem wakeEvent_rights {record : ProcessRecord} : wakeEventAfter held (rights env u info record) = held :=
  wakeEventAfter_of_serves fun _ => env.serves_of_mem_controlCalls

/-- The wake event after an attach is what its calls leave. -/
theorem Ends.wakeEvent_after (ends : Ends env defaults headless issued s t info o) (sound : s.registry.Sound) :
    o.session.wakeEvent = wakeEventAfter s.wakeEvent o.calls := by
  cases ends with
  | known => rfl
  | notUp _ hUp =>
      rw [wakeEventAfter_append, wakeEvent_greeting]
      exact (BringUp.ends_of_run sound hUp).wakeEvent_after
  | inputRefused =>
      rw [wakeEventAfter_append, wakeEvent_greeting, wakeEvent_rights]
      rfl
  | outputRefused =>
      rw [wakeEventAfter_append, wakeEvent_greeting, wakeEvent_rights]
      rfl
  | attached _ hUp _ _ _ _ hPublished =>
      subst hPublished
      rw [wakeEventAfter_append, wakeEventAfter_append, wakeEventAfter_append, wakeEvent_greeting,
        wakeEvent_rights, wakeEventAfter_of_serves fun _ => Loopback.serves_of_mem_publishConnection]
      exact (BringUp.ends_of_run sound hUp).wakeEvent_after

end Attach

namespace Handoff

variable {serverHandle : Option RawHandle} {target : Clsid} {descriptor : Descriptor}

/-- A handler that confirms has been given the event, and nothing else changes it. -/
theorem Negotiates.wakeEvent_after {offered : RawHandle} {held : Option RawHandle} {exchange : Negotiation}
    (negotiates : Negotiates env serverHandle target descriptor offered exchange) :
    wakeEventAfter held exchange.calls = match exchange.outcome with
      | .error _ => held
      | .ok _ => none := by
  cases negotiates <;> rfl

/-- The wake event after a handoff attempt is what its calls leave. -/
theorem Attempts.wakeEvent_after {s : Session} {result : Attempt}
    (attempts : Attempts env serverHandle target descriptor s result) :
    result.session.wakeEvent = wakeEventAfter s.wakeEvent result.calls := by
  have hExchange : wakeEventAfter s.wakeEvent _ = _ := (negotiates_negotiate env serverHandle target descriptor
    (s.wakeEvent.getD .null)).wakeEvent_after
  have hClose : wakeEventAfter none (s.wakeEvent.toList.map Call.close) = none := by
    cases s.wakeEvent <;> rfl
  cases attempts with
  | failed hEnd =>
      rw [hEnd] at hExchange
      exact hExchange.symm
  | unrelayed hEnd =>
      rw [hEnd] at hExchange
      rw [wakeEventAfter_append, wakeEventAfter_append, hExchange, hClose]
      rfl
  | relayed hEnd =>
      rw [hEnd] at hExchange
      rw [wakeEventAfter_append, wakeEventAfter_append, hExchange, hClose]
      exact (wakeEventAfter_of_serves fun _ => env.serves_of_mem_controlCalls).symm

end Handoff

namespace Server

variable {server : Server} {message : Message}

/-- The wake event after a connect that is hosted here is what its calls leave. -/
theorem Hosts.wakeEvent_after {issued : Nat} {info : ConnectInfo} {served : Served}
    (hosts : Hosts env server issued message info served) (consistent : server.session.Consistent) :
    served.server.session.wakeEvent = wakeEventAfter server.session.wakeEvent served.calls := by
  cases hosts with
  | refused hAttach => exact (Attach.ends_of_run consistent hAttach).wakeEvent_after consistent.sound
  | delivered hAttach =>
      rw [wakeEventAfter_append]
      exact (Attach.ends_of_run consistent hAttach).wakeEvent_after consistent.sound
  | undelivered hAttach =>
      rw [wakeEventAfter_append, Session.wakeEvent_rollback]
      exact (Attach.ends_of_run consistent hAttach).wakeEvent_after consistent.sound

/-- The wake event after a connect is what its calls leave, handed over or not. -/
theorem Connects.wakeEvent_after {request : ConnectMessage} {served : Served}
    (connects : Connects env server message request served) (consistent : server.session.Consistent) :
    served.server.session.wakeEvent = wakeEventAfter server.session.wakeEvent served.calls := by
  cases connects with
  | invalid => rfl
  | hosted => exact hosts_hostLocally.wakeEvent_after consistent
  | handedOver _ _ hAttempt =>
      rw [wakeEventAfter_append]
      exact (Handoff.attempts_of_attempt hAttempt).wakeEvent_after
  | fellBack _ hTarget hAttempt hServed =>
      subst hServed
      rw [wakeEventAfter_append, ← (Handoff.attempts_of_attempt hAttempt).wakeEvent_after]
      exact hosts_hostLocally.wakeEvent_after (consistent_attempt consistent hTarget hAttempt)

/-- After every message the session holds the event that the calls leave, or none. -/
theorem wakeEvent_dispatch (hStandard : env.Standard) (consistent : server.session.Consistent) :
    (server.dispatch env message).server.session.wakeEvent =
      wakeEventAfter server.session.wakeEvent (server.dispatch env message).calls := by
  by_cases hRequest : ∃ request, message.request = .connect request
  · obtain ⟨request, hRequest⟩ := hRequest
    exact (connects_dispatch hRequest).wakeEvent_after consistent
  · rw [not_exists] at hRequest
    rw [wakeEventAfter_of_serves fun _ => serves_of_mem_dispatch hRequest]
    exact (persists_dispatch_of_not_connect hStandard consistent hRequest).wakeEvent_eq

def Turn.wakeEvent (held : Option RawHandle) (turn : Turn) : Option RawHandle :=
  match turn.step with
  | .shutdown => none
  | _ => wakeEventAfter held turn.calls

def heldAfter (held : Option RawHandle) (turns : List Turn) : Option RawHandle :=
  turns.foldl Turn.wakeEvent held

theorem heldAfter_concat (held : Option RawHandle) (turns : List Turn) (turn : Turn) :
    heldAfter held (turns ++ [turn]) = turn.wakeEvent (heldAfter held turns) :=
  List.foldl_append

/-- So it does after every step. -/
theorem wakeEvent_turn {step : Step} (hStandard : step.Standard) (consistent : server.session.Consistent) :
    (server.turn step).server.session.wakeEvent = (server.turn step).wakeEvent server.session.wakeEvent := by
  cases step with
  | dispatch env message => exact wakeEvent_dispatch hStandard consistent
  | shutdown => rfl
  | failNext count => rfl
  | focus on => rfl

/-- Over a run, the session holds what the calls of the run leave. -/
theorem Run.wakeEvent_eq {first : Server} {turns : List Turn} (run : Run first turns server)
    (consistent : first.session.Consistent) :
    server.session.wakeEvent = heldAfter first.session.wakeEvent turns := by
  induction run with
  | idle => rfl
  | step prior step hStandard ih =>
      rw [heldAfter_concat, ← ih]
      exact wakeEvent_turn hStandard (prior.consistent consistent)

variable {held : Option RawHandle} {event : RawHandle} {turns : List Turn}

/-- An event that is held was there at the start or was made in the run. -/
theorem createEvent_mem_of_heldAfter (h : heldAfter held turns = some event) :
    held = some event ∨ .createEvent (some event) ∈ trace turns := by
  induction turns generalizing held with
  | nil => exact .inl h
  | cons turn rest ih =>
      rcases ih h with hTurn | hLater
      · simp only [Turn.wakeEvent] at hTurn
        split at hTurn
        · cases hTurn
        · exact (createEvent_mem_of_wakeEventAfter hTurn).imp_right (List.mem_append_left _)
      · exact .inr (List.mem_append_right _ hLater)

/-! What is open at an offer is the wake event, if there is one, and what has just been prepared. -/

/-- Preparing an offer opens the client process and the pipe for signals. -/
theorem openAfter_preparations {opened : Multiset RawHandle} (target : Clsid) (offer : Handoff.Offer) :
    openAfter opened (Handoff.preparations target offer) = some (offer.process ::ₘ offer.signalPipe ::ₘ opened) :=
  rfl

/-- An offer in a turn comes right after its preparations and carries the wake event that the server held. -/
theorem prepared_turn {step : Step} {before after : List Call} {offer : Handoff.Offer}
    (h : (server.turn step).calls = before ++ .offer offer :: after) :
    ∃ target, before = Handoff.preparations target offer ∧
      offer.wakeEvent = server.session.wakeEvent.getD .null := by
  cases step with
  | dispatch env message =>
      obtain ⟨⟨target, hBefore⟩, -, hOffer⟩ := prepared_dispatch h
      exact ⟨target, hBefore, congrArg (·.wakeEvent) hOffer⟩
  | shutdown =>
      have hMem : .offer offer ∈ (server.turn .shutdown).calls :=
        h ▸ List.mem_append_right before (List.mem_cons_self ..)
      obtain ⟨_, -, hClose⟩ := List.mem_map.1 hMem
      cases hClose
  | failNext count => simp [turn] at h
  | focus on => simp [turn] at h

variable {options : Options} {capacity : Nat} {serverHandle : Option RawHandle} {first last : Server}
  {opening : List Call} {prior later : List Turn} {turn : Turn} {before after : List Call} {offer : Handoff.Offer}

theorem wakeEvent_start {histories : HistoryPool} {transport : Loopback}
    (h : start env options histories transport = (.ok first, opening)) :
    first.session.wakeEvent = wakeEventAfter none opening := by
  rw [start] at h
  split at h
  · cases h
  · cases h
    rfl

/-- Whenever a handler is offered the session, it is given a pipe and a process handle that were issued for it and
are open. Its wake event is open as well unless the server has none to give: the last one that was created went to a
handler that confirmed, or was released with the session. In its place the handler then gets the null handle. No
other handle is open. -/
theorem offered_handles_open
    (hStart : start env options (.ofCapacity capacity) (.withServerHandle serverHandle) = (.ok first, opening))
    (run : Run first (prior ++ turn :: later) last) (hOffer : turn.calls = before ++ .offer offer :: after)
    (hIssued : ∀ handle ∈ issued (opening ++ trace prior ++ before), handle ≠ .null) :
    let event := heldAfter (wakeEventAfter none opening) prior
    openAfter 0 (opening ++ trace prior ++ before) =
        some (offer.process ::ₘ offer.signalPipe ::ₘ event.toList) ∧
      (.createPipe (some offer.signalPipe) ∈ before ∧ offer.signalPipe ≠ .null) ∧
      (.duplicateProcess (some offer.process) ∈ before ∧ offer.process ≠ .null) ∧
      (∀ handle, event = some handle → offer.wakeEvent = handle ∧ handle ≠ .null ∧
        .createEvent (some handle) ∈ opening ++ trace prior) ∧
      (event = none → offer.wakeEvent = .null) := by
  intro event
  have started : Started first := ⟨env, options, capacity, serverHandle, opening, hStart⟩
  obtain ⟨server, runPrior, -, hTurn⟩ := run.at_turn
  rw [hTurn] at hOffer
  obtain ⟨target, rfl, hWake⟩ := prepared_turn hOffer
  have hEvent : server.session.wakeEvent = event := by
    rw [runPrior.wakeEvent_eq started.consistent, wakeEvent_start hStart]
  have hOpen := ((leads_start hStart).append (runPrior.leads started.consistent)).openAfter_eq
  rw [hEvent] at hWake
  rw [Session.held, hEvent] at hOpen
  have hNonnull (call : Call) (handle : RawHandle) (hCall : call ∈ opening ++ trace prior ++ _)
      (hNew : call.issued? = some handle) : handle ≠ .null :=
    hIssued handle (List.mem_filterMap.2 ⟨call, hCall, hNew⟩)
  have hPipe : .createPipe (some offer.signalPipe) ∈ Handoff.preparations target offer := by
    simp [Handoff.preparations]
  have hProcess : .duplicateProcess (some offer.process) ∈ Handoff.preparations target offer := by
    simp [Handoff.preparations]
  refine ⟨?_, ⟨hPipe, hNonnull _ _ (List.mem_append_right _ hPipe) rfl⟩,
    ⟨hProcess, hNonnull _ _ (List.mem_append_right _ hProcess) rfl⟩, fun handle hHeld => ?_, fun hNone => ?_⟩
  · rw [openAfter_append, hOpen]
    exact openAfter_preparations target offer
  · have hCreated : .createEvent (some handle) ∈ opening ++ trace prior := by
      rcases createEvent_mem_of_heldAfter hHeld with hFirst | hLater
      · rcases createEvent_mem_of_wakeEventAfter hFirst with hNever | hOpening
        · cases hNever
        · exact List.mem_append_left _ hOpening
      · exact List.mem_append_right _ hLater
    rw [hHeld] at hWake
    exact ⟨hWake, hNonnull _ _ (List.mem_append_left _ hCreated) rfl, hCreated⟩
  · rw [hWake, hNone]
    rfl

/-- The handler that is approached for the second process is given the event that replaced the first one. -/
theorem offered_handles_open_renewed :
    let first := delegating.turn handingOver[0]
    let offer := Handoff.offerOf (willing 5) (connecting 8).descriptor ⟨0x500⟩ ⟨5⟩
    .offer offer ∈ (first.server.turn handingOver[1]).calls ∧
      .createEvent (some offer.wakeEvent) ∈ .createEvent (some ⟨1⟩) :: first.calls ∧
      openAfter 0 (.createEvent (some ⟨1⟩) :: first.calls ++ Handoff.preparations ⟨1⟩ offer) =
        some {⟨7⟩, ⟨6⟩, ⟨5⟩} := by
  intro first offer
  have run : Run delegating ([first] ++ first.server.turn handingOver[1] :: []) _ :=
    Run.idle.follow standard_handingOver
  obtain ⟨after, hOffer⟩ : ∃ after, (first.server.turn handingOver[1]).calls =
      Handoff.preparations ⟨1⟩ offer ++ .offer offer :: after := ⟨_, rfl⟩
  have hTrace : trace [first] = first.calls := List.append_nil _
  have hIssued : ∀ handle ∈ issued ([.createEvent (some ⟨1⟩)] ++ first.calls ++ Handoff.preparations ⟨1⟩ offer),
      handle ≠ .null := by decide
  rw [← hTrace] at hIssued ⊢
  obtain ⟨hOpen, -, -, hHeld, -⟩ := offered_handles_open start_delegating run hOffer hIssued
  refine ⟨?_, (hHeld ⟨5⟩ rfl).2.2, hOpen⟩
  rw [hOffer]
  exact List.mem_append_right _ (List.mem_cons_self ..)

/-- The relay cannot be started for the first process, and no new event can be had to host it. Then another process
connects. -/
def bereft : List Step :=
  [.dispatch
    { willing 1 with
      startRelay := .error "no thread"
      system := { (willing 1).system with createEvent := .error (.unsupported "event") } } (connecting 7),
   .dispatch (willing 4) (connecting 8)]

/-- A server that is not shutting down offers the null handle for a wake event. -/
theorem null_wakeEvent_offered :
    start quiet delegating.options (.ofCapacity HistoryPool.defaultCapacity) (.withServerHandle (some ⟨0x500⟩)) =
        (.ok delegating, [.createEvent (some ⟨1⟩)]) ∧
      (∀ step ∈ bereft, step.Standard) ∧ (delegating.follow (bereft.take 1)).shuttingDown = false ∧
      ∃ before offer after,
        .createEvent (some ⟨1⟩) :: trace (delegating.turns bereft) = before ++ .offer offer :: after ∧
        offer.wakeEvent = .null ∧ openAfter 0 before = some {offer.process, offer.signalPipe} ∧
        ∀ handle ∈ issued before, handle ≠ .null := by
  refine ⟨start_delegating, ?_, rfl, ?_⟩
  · simp only [bereft, List.forall_mem_cons]
    exact ⟨⟨rfl, fun _ _ => rfl⟩, standard_willing 4, by simp⟩
  · refine ⟨(.createEvent (some ⟨1⟩) :: trace (delegating.turns bereft)).take 18,
      Handoff.offerOf (willing 4) (connecting 8).descriptor ⟨0x500⟩ .null,
      (.createEvent (some ⟨1⟩) :: trace (delegating.turns bereft)).drop 19, ?_, rfl, ?_, ?_⟩
    · rfl
    · rfl
    · decide

end Server

end ConsoleHost
