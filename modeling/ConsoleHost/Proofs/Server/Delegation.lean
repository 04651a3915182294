import ConsoleHost.Proofs.OpenHandles
import ConsoleHost.Proofs.Server.Offers
import ConsoleHost.Proofs.Signal.RoundTrip

/-! What a confirmed handoff changes. The session is left as it was, but for its wake event, which the handler has
now. Nothing is done to host the process here, and process control hears only what the new host asks for. -/

namespace ConsoleHost

namespace Call

def awaited? : Call → Option RawHandle
  | waitForExit process => some process
  | _ => none

def awaited (calls : List Call) : List RawHandle := calls.filterMap awaited?

def represented? : Call → Option RawHandle
  | representative process => some process
  | _ => none

def representatives (calls : List Call) : List RawHandle := calls.filterMap represented?

def controls : Call → Bool
  | control .. => true
  | _ => false

def controlling (calls : List Call) : List Call := calls.filter controls

variable (calls more : List Call)

theorem awaited_append : awaited (calls ++ more) = awaited calls ++ awaited more := List.filterMap_append

theorem representatives_append :
    representatives (calls ++ more) = representatives calls ++ representatives more :=
  List.filterMap_append

theorem controlling_append : controlling (calls ++ more) = controlling calls ++ controlling more :=
  List.filter_append ..

end Call

open Call

namespace Environment

variable (env : Environment) (before : Nat) (requests : List ControlRequest)

/-- A view of calls that shows no call to process control shows nothing of a relay. -/
theorem filterMap_controlCalls {α : Type} {view : Call → Option α}
    (h : ∀ request succeeded, view (.control request succeeded) = none) :
    (env.controlCalls before requests).filterMap view = [] := by
  apply List.filterMap_eq_nil_iff.2
  intro call hMem
  obtain ⟨request, succeeded, rfl⟩ := env.mem_controlCalls hMem
  exact h request succeeded

/-- Control calls wait for nobody. -/
theorem awaited_controlCalls : awaited (env.controlCalls before requests) = [] :=
  env.filterMap_controlCalls before requests fun _ _ => rfl

theorem representatives_controlCalls : representatives (env.controlCalls before requests) = [] :=
  env.filterMap_controlCalls before requests fun _ _ => rfl

theorem controlling_controlCalls :
    controlling (env.controlCalls before requests) = env.controlCalls before requests := by
  apply List.filter_eq_self.2
  intro call hMem
  obtain ⟨_, _, rfl⟩ := env.mem_controlCalls hMem
  rfl

end Environment

namespace Handoff

/-- The calls up to the start of the relay: the offer with its preparations, the process that the handler gives in
return, and the handles that it has its own copies of, which are closed here. -/
def conveyance (target : Clsid) (offer : Offer) (representative : RawHandle) (wakeEvent : Option RawHandle) :
    List Call :=
  preparations target offer ++ .offer offer :: .representative representative :: .close offer.signalPipe ::
    .close offer.process :: (wakeEvent.toList.map Call.close ++ [.startRelay true])

variable {env : Environment} {serverHandle : Option RawHandle} {target : Clsid} {descriptor : Descriptor}
  {s session : Session} {representative : RawHandle} {calls : List Call}

/-- An attempt that succeeds gives the wake event away, and then relays what is in its own signal pipe. -/
theorem attempt_eq_of_ok (h : attempt env serverHandle target descriptor s = ⟨.ok representative, session, calls⟩) :
    session = { s with wakeEvent := none } ∧ ∃ server signals, env.system.createPipe = .ok signals ∧
      env.takeOver (offerOf env descriptor server (s.wakeEvent.getD .null)) = .ok () ∧
      calls = conveyance target (offerOf env descriptor server (s.wakeEvent.getD .null)) representative
        s.wakeEvent ++ env.controlCalls 0 (Signal.relayed signals) := by
  cases attempts_of_attempt h with
  | @relayed established before hExchange hRelay =>
      have negotiates := negotiates_negotiate env serverHandle target descriptor (s.wakeEvent.getD .null)
      rw [hExchange] at negotiates
      cases negotiates with
      | @accepted server signals _ _ hPipe _ hOffer =>
          refine ⟨rfl, server, signals, hPipe, hOffer, ?_⟩
          simp [conveyance, preparations, offerOf]

section

variable (target : Clsid) (offer : Offer) (representative : RawHandle) (wakeEvent : Option RawHandle)

theorem awaited_conveyance : awaited (conveyance target offer representative wakeEvent) = [] := by
  cases wakeEvent <;> rfl

/-- Conveying a session starts one representative. -/
theorem representatives_conveyance :
    representatives (conveyance target offer representative wakeEvent) = [representative] := by
  cases wakeEvent <;> rfl

/-- Conveying a session takes one offer. -/
theorem offers_conveyance : offers (conveyance target offer representative wakeEvent) = [offer] := by
  cases wakeEvent <;> rfl

theorem controlling_conveyance : controlling (conveyance target offer representative wakeEvent) = [] := by
  cases wakeEvent <;> rfl

theorem startRelay_mem_conveyance : .startRelay true ∈ conveyance target offer representative wakeEvent := by
  simp [conveyance]

/-- Conveying a session serves no client and raises nothing here. -/
theorem hosts_conveyance : ∀ call ∈ conveyance target offer representative wakeEvent,
    call.serves = false ∧ call.raises = false := by
  cases wakeEvent <;> simp [conveyance, preparations, serves, raises]

end

end Handoff

namespace Server

variable {env : Environment} {server : Server} {message : Message} {request : ConnectMessage}

/-- The session of a server is handed over in serving a request, and `representative` stands for it. -/
structure Delegates (env : Environment) (server : Server) (served : Served) (representative : RawHandle) : Prop where
  /-- Nothing of the server changes but the ownership of the wake event, what it reports and that it shuts down. -/
  server_eq : served.server =
    { server with
      session := { server.session with wakeEvent := none }
      telemetry := served.server.telemetry
      shuttingDown := true }
  /-- A handle is only closed while it is open, and in the end none is. -/
  openAfter_eq : openAfter server.session.held served.calls = some 0
  /-- The wake event is closed once, and so is every handle that is issued for the request. -/
  closed_perm : (closed served.calls).Perm (server.session.wakeEvent.toList ++ issued served.calls)
  /-- The handler takes the one offer that is made. It is offered the wake event that is given away. -/
  offered : ∃ offer, offers served.calls = [offer] ∧ env.takeOver offer = .ok () ∧
    offer.wakeEvent = server.session.wakeEvent.getD .null
  /-- Of all the calls that it takes to host a process, only some to process control are made. -/
  elsewhere : ∀ call ∈ served.calls, call.raises = false ∧ (call.serves = true → call.controls = true)
  /-- Those are the ones that are read from the signal pipe of this offer, in order. -/
  relayed : ∃ signals requests last, env.system.createPipe = .ok signals ∧ Signal.Reads signals requests last ∧
    Signal.Exhausted last ∧ controlling served.calls = env.controlCalls 0 requests
  /-- The process that the handler gave is waited for once. The relay has been started by then. -/
  representatives_eq : representatives served.calls = [representative]
  awaited_eq : awaited served.calls = [representative]
  relayed_before : ∃ before after, served.calls = before ++ .waitForExit representative :: after ∧
    .startRelay true ∈ before

/-- A session that an attempt hands over is handed over in serving the request, whatever is relayed. -/
theorem delegates_of_attempt {target : Clsid} {session : Session} {representative : RawHandle} {calls : List Call}
    (h : Handoff.attempt env server.transport.serverHandle target message.descriptor server.session =
      ⟨.ok representative, session, calls⟩) (completion : Completion) :
    Delegates env server
      ⟨server.relieved target session, completion, calls ++ [.waitForExit representative, .close representative]⟩
      representative := by
  have opened : Leads server.session.held _ 0 :=
    (Handoff.attempts_of_attempt h).leads.append (leads_wait representative)
  have hBalance := add_issued_eq opened.openAfter_eq
  obtain ⟨rfl, handle, signals, hPipe, hTaken, rfl⟩ := Handoff.attempt_eq_of_ok h
  obtain ⟨last, reads, exhausted⟩ := Signal.exists_reads_relayed signals
  have hApart : Apart (env.controlCalls 0 (Signal.relayed signals)) :=
    apart_of_serves fun _ hMem => .inl (env.serves_of_mem_controlCalls hMem)
  constructor
  case server_eq => rfl
  case openAfter_eq => exact opened.openAfter_eq
  case closed_perm =>
    rw [Multiset.add_zero] at hBalance
    exact Multiset.coe_eq_coe.1 hBalance.symm
  case offered =>
    refine ⟨_, ?_, hTaken, rfl⟩
    rw [offers_append, offers_append, Handoff.offers_conveyance, hApart.offers_eq]
    rfl
  case elsewhere =>
    intro call hMem
    rcases List.mem_append.1 hMem with hBefore | hWait
    · rcases List.mem_append.1 hBefore with hConveyed | hRelayed
      · obtain ⟨hServes, hRaises⟩ := Handoff.hosts_conveyance _ _ _ _ call hConveyed
        exact ⟨hRaises, fun hServed => absurd hServed (by simp [hServes])⟩
      · obtain ⟨_, _, rfl⟩ := env.mem_controlCalls hRelayed
        exact ⟨rfl, fun _ => rfl⟩
    · simp only [List.mem_cons, List.not_mem_nil, or_false] at hWait
      rcases hWait with rfl | rfl
      · exact ⟨rfl, nofun⟩
      · exact ⟨rfl, nofun⟩
  case relayed =>
    refine ⟨signals, _, last, hPipe, reads, exhausted, ?_⟩
    rw [controlling_append, controlling_append, Handoff.controlling_conveyance, env.controlling_controlCalls]
    exact List.append_nil _
  case representatives_eq =>
    rw [representatives_append, representatives_append, Handoff.representatives_conveyance,
      env.representatives_controlCalls]
    rfl
  case awaited_eq =>
    rw [awaited_append, awaited_append, Handoff.awaited_conveyance, env.awaited_controlCalls]
    rfl
  case relayed_before =>
    refine ⟨_, [.close representative], rfl, List.mem_append_left _ ?_⟩
    exact Handoff.startRelay_mem_conveyance ..

/-- Every connect request that is completed as handed over has handed the session over and done nothing else. The
session differs from what it was in its wake event alone, which the handler was offered and which is closed here
once. Nothing reaches clients, nothing is brought up, and process control gets the requests of the new host's signal
pipe and no others. The server shuts down, and waits once, for the process that the handler gave, after the relay was
started. -/
theorem handedOver_changes_ownership (env : Environment) (server : Server)
    (hRequest : message.request = .connect request)
    (hOver : (server.dispatch env message).completion = .handedOff) :
    ∃ representative, Delegates env server (server.dispatch env message) representative := by
  have connects : Connects env server message request (server.dispatch env message) := connects_dispatch hRequest
  generalize server.dispatch env message = served at connects hOver
  cases connects with
  | invalid => cases hOver
  | hosted => exact absurd hOver hostLocally_ne_handedOff
  | handedOver _ _ hAttempt => exact ⟨_, delegates_of_attempt hAttempt .handedOff⟩
  | fellBack _ _ _ hServed =>
      subst hServed
      exact absurd hOver hostLocally_ne_handedOff

/-- A new host asks for process 7 to be ended, and then its pipe breaks off. -/
def ending : Environment :=
  { willing 1 with
    system := { (willing 1).system with createPipe := .ok (.ofBytes (Signal.encode (.endTask 7 0 1) ++ [5, 9])) } }

/-- That is all that process control hears, and the process that the host gave is waited for. -/
theorem handedOver_changes_ownership_ending :
    let served := delegating.dispatch ending (connecting 7)
    served.completion = .handedOff ∧ served.server.session = { delegating.session with wakeEvent := none } ∧
      controlling served.calls = [.control (.endTask 7 0 1) false] ∧
      ∃ representative, representatives served.calls = [representative] ∧
        awaited served.calls = [representative] := by
  intro served
  have hOver : served.completion = .handedOff := rfl
  have hRequest : (connecting 7).request = .connect ⟨true, true, 0, "", "", "", 0, 0, .zero, .zero⟩ := rfl
  obtain ⟨representative, delegates⟩ := handedOver_changes_ownership ending delegating hRequest hOver
  obtain ⟨signals, requests, last, hPipe, reads, exhausted, hControls⟩ := delegates.relayed
  obtain rfl := Except.ok.inj hPipe
  have hWritten : (ByteSource.ofBytes (Signal.encode (.endTask 7 0 1) ++ [5, 9])).pending =
      [ControlRequest.endTask 7 0 1].flatMap Signal.encode ++ [5, 9] := rfl
  obtain ⟨behind, written, hBehind, hEnd⟩ := Signal.reads_flatMap_encode hWritten
  have broken : Signal.ReadsAs behind.failure behind.pending (.error (.read (Signal.breakOff none))) [] := by
    rw [hBehind, hEnd]
    exact .cutSize .setForeground (by decide)
  obtain rfl := reads.unique exhausted written broken.exhausted
  exact ⟨hOver, congrArg (·.session) delegates.server_eq, hControls, representative, delegates.representatives_eq,
    delegates.awaited_eq⟩

end Server

end ConsoleHost
