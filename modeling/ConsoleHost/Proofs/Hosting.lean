import ConsoleHost.Proofs.Calls
import ConsoleHost.Server

/-! Which calls it takes to host processes. A session that is up takes calls that serve its processes; one that
is down also asks for its wake event and its window. Neither is true of any call of a handoff. -/

namespace ConsoleHost

namespace Call

/-- A call on behalf of processes: to process control, the accessibility layer, clients or the API layer. -/
def serves : Call → Bool
  | control .. | accessibility .. | publish .. | complete .. | api _ => true
  | _ => false

/-- A call that brings a session up. -/
def raises : Call → Bool
  | createEvent _ | createWindow .. => true
  | _ => false

theorem serves_eq_false_of_raises {call : Call} (h : call.raises = true) : call.serves = false := by
  cases call with
  | createEvent => rfl
  | createWindow => rfl
  | _ => cases h

theorem raises_eq_false_of_serves {call : Call} (h : call.serves = true) : call.raises = false := by
  cases hRaises : call.raises with
  | true => exact absurd h (Bool.eq_false_iff.1 (serves_eq_false_of_raises hRaises))
  | false => rfl

end Call

namespace Environment

variable (env : Environment) {call : Call}

theorem serves_of_mem_controlCalls {before : Nat} {requests : List ControlRequest}
    (h : call ∈ env.controlCalls before requests) : call.serves = true := by
  obtain ⟨_, _, rfl⟩ := env.mem_controlCalls h
  rfl

theorem serves_of_mem_accessibilityCalls {event : ApplicationEvent} {pid : UInt32}
    (h : call ∈ env.accessibilityCalls event pid) : call.serves = true := by
  obtain ⟨_, rfl⟩ := env.mem_accessibilityCalls h
  rfl

end Environment

namespace Handoff

variable {env : Environment} {serverHandle : Option RawHandle} {target : Clsid} {descriptor : Descriptor}

/-- A negotiation neither serves a client nor raises anything. -/
theorem Negotiates.hosts_nothing {wakeEvent : RawHandle} {exchange : Negotiation}
    (negotiates : Negotiates env serverHandle target descriptor wakeEvent exchange) :
    ∀ call ∈ exchange.calls, call.serves = false ∧ call.raises = false := by
  cases negotiates <;> simp [Call.serves, Call.raises]

/-- Only the relay of a handler that has taken over passes anything on to process control. -/
theorem hosts_nothing_of_attempt_error {s session : Session} {failure : Error} {calls : List Call}
    (h : attempt env serverHandle target descriptor s = ⟨.error failure, session, calls⟩) :
    ∀ call ∈ calls, call.serves = false ∧ call.raises = false := by
  have hExchange :=
    (negotiates_negotiate env serverHandle target descriptor (s.wakeEvent.getD .null)).hosts_nothing
  cases attempts_of_attempt h with
  | failed hEnd => rwa [hEnd] at hExchange
  | unrelayed hEnd =>
      rw [hEnd] at hExchange
      simp only [List.forall_mem_append]
      refine ⟨⟨hExchange, ?_⟩, by simp [Call.serves, Call.raises]⟩
      cases s.wakeEvent <;> simp [Call.serves, Call.raises]

end Handoff

variable {env : Environment} {call : Call}

theorem Loopback.serves_of_mem_publishConnection {t : Loopback} {pid : UInt32} {input output : HandleId}
    (h : call ∈ (t.publishConnection pid input output).calls) : call.serves = true := by
  simp only [publishConnection, List.mem_cons, List.not_mem_nil, or_false] at h
  rcases h with rfl | rfl | rfl
  · rfl
  · rfl
  · rfl

variable {defaults : SessionDefaults} {headless : Bool} {issued : Nat} {s : Session} {t : Loopback}
  {info : ConnectInfo}

/-- Bring-up is all there is to a session that is down, and nothing to one that is up. -/
theorem BringUp.raises_of_mem_run (h : call ∈ (run env defaults headless issued s info).calls) :
    s.initialized = false ∧ call.raises = true := by
  have hHold : ∀ call ∈ (holdWakeEvent env.system issued s).2, call.raises = true := by
    intro call hMem
    obtain ⟨_, rfl⟩ := mem_holdWakeEvent hMem
    rfl
  have hOpen : ∀ call ∈ (openWindow env headless (title defaults info) (windowSize defaults info)).2,
      call.raises = true := by
    intro call hMem
    obtain ⟨_, rfl⟩ := mem_openWindow env hMem
    rfl
  simp only [run] at h
  split at h
  · cases h
  · next hDown =>
      refine ⟨Bool.eq_false_iff.2 hDown, ?_⟩
      split at h
      · next hEvent =>
          rw [hEvent] at hHold
          exact hHold call h
      · next hEvent =>
          rw [hEvent] at hHold
          split at h
          · next hWindow =>
              rw [hWindow] at hOpen
              exact (List.mem_append.1 h).elim (hHold call) (hOpen call)
          · next hWindow =>
              rw [hWindow] at hOpen
              exact (List.mem_append.1 h).elim (hHold call) (hOpen call)

namespace Attach

/-- Settling a process only serves clients. -/
theorem serves_of_mem_settle {told : Nat} (h : call ∈ (settle env told s t info).calls) :
    call.serves = true := by
  simp only [settle] at h
  split at h
  · exact env.serves_of_mem_controlCalls h
  · exact (List.mem_append.1 h).elim env.serves_of_mem_controlCalls Loopback.serves_of_mem_publishConnection

/-- Completing an attach serves clients, and raises a session that was down. -/
theorem hosts_of_mem_complete (h : call ∈ (complete env defaults headless issued s t info).calls) :
    call.serves = true ∨ (s.initialized = false ∧ call.raises = true) := by
  have hAnnounced (hMem : call ∈ env.controlCalls 0 (announcements info) ++
      env.accessibilityCalls .started info.pid) : call.serves = true :=
    (List.mem_append.1 hMem).elim env.serves_of_mem_controlCalls env.serves_of_mem_accessibilityCalls
  simp only [complete] at h
  split at h
  · exact (List.mem_append.1 h).imp hAnnounced BringUp.raises_of_mem_run
  · rcases List.mem_append.1 h with hBefore | hSettled
    · exact (List.mem_append.1 hBefore).imp hAnnounced BringUp.raises_of_mem_run
    · exact .inl (serves_of_mem_settle hSettled)

/-- So does the whole attach. -/
theorem hosts_of_mem_run (h : call ∈ (run env defaults headless issued s t info).calls) :
    call.serves = true ∨ (s.initialized = false ∧ call.raises = true) := by
  simp only [run] at h
  split at h
  · cases h
  · next processes _ =>
      split at h
      · exact hosts_of_mem_complete (s := { s with processes := processes }) h
      · exact hosts_of_mem_complete (s := { s with processes := processes }) h

end Attach

namespace Server

variable {server : Server} {message : Message}

/-- So does hosting a connect. -/
theorem hosts_of_mem_hostLocally (h : call ∈ (server.hostLocally env issued message info).calls) :
    call.serves = true ∨ (server.session.initialized = false ∧ call.raises = true) := by
  simp only [hostLocally] at h
  split at h
  · exact Attach.hosts_of_mem_run h
  · rcases List.mem_append.1 h with hAttach | hReply
    · exact Attach.hosts_of_mem_run hAttach
    · cases List.mem_singleton.1 hReply
      exact .inl rfl

/-- A create request only serves clients. -/
theorem serves_of_mem_create {request : CreateRequest} (h : call ∈ (server.create message request).calls) :
    call.serves = true := by
  simp only [create] at h
  split at h
  · cases h
  · simp only [List.mem_cons, List.not_mem_nil, or_false] at h
    rcases h with rfl | rfl
    · rfl
    · rfl

theorem not_mem_close : call ∉ (server.close message).calls := List.not_mem_nil

theorem serves_of_mem_disconnect (h : call ∈ (server.disconnect env message).calls) :
    call.serves = true := by
  simp only [disconnect] at h
  split at h
  · cases h
  · exact env.serves_of_mem_accessibilityCalls h

theorem serves_of_mem_api (h : call ∈ (server.api env message).calls) : call.serves = true := by
  simp only [api] at h
  split at h
  · cases h
  · cases List.mem_singleton.1 h
    rfl

/-- A request that nobody connects with takes no calls but those that serve. -/
theorem serves_of_mem_dispatch (hRequest : ∀ request, message.request ≠ .connect request)
    (h : call ∈ (server.dispatch env message).calls) : call.serves = true := by
  simp only [dispatch] at h
  split at h
  · exact serves_of_mem_create h
  · exact absurd h not_mem_close
  · next hConnect => exact absurd hConnect (hRequest _)
  · exact serves_of_mem_disconnect h
  · exact serves_of_mem_api h

end Server

end ConsoleHost
