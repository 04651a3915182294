import ConsoleHost.Attach
import ConsoleHost.Proofs.Handoff

/-! Which calls reach clients. Of all that is done for a request only publications and replies do, and
neither process control, the accessibility layer, the window host nor a handoff is one of those. So the replies
that are sent and the processes that are published can be read off the calls that reach clients. -/

namespace ConsoleHost

/-- A call that reaches clients: something is made addressable, or a reply is sent. -/
def Call.reaches : Call → Bool
  | .publish .. | .complete .. => true
  | _ => false

def Call.reaching (calls : List Call) : List Call := calls.filter Call.reaches

namespace Call

@[simp] theorem reaching_append (first second : List Call) :
    reaching (first ++ second) = reaching first ++ reaching second :=
  List.filter_append ..

theorem reaching_cons_of_not {call : Call} (h : call.reaches = false) (calls : List Call) :
    reaching (call :: calls) = reaching calls :=
  List.filter_cons_of_neg (Bool.not_eq_true _ ▸ h)

/-- The calls that reach somebody, in the order in which they were made. -/
theorem mem_reaching {calls : List Call} {call : Call} :
    call ∈ reaching calls ↔ call ∈ calls ∧ call.reaches = true :=
  List.mem_filter

/-- The reply that a call hands to the transport, and whether it got through. -/
def sent? : Call → Option (Reply × Bool)
  | complete reply succeeded => some (reply, succeeded)
  | _ => none

def sent (calls : List Call) : List (Reply × Bool) := calls.filterMap sent?

/-- What is sent is among the calls that reach somebody. -/
theorem sent_reaching (calls : List Call) : sent (reaching calls) = sent calls := by
  induction calls with
  | nil => rfl
  | cons call rest ih =>
      cases call with
      | complete => exact congrArg (_ :: ·) ih
      | _ => exact ih

/-- Where no call reaches anybody, nothing is sent. -/
theorem sent_of_reaching {calls : List Call} (h : reaching calls = []) : sent calls = [] := by
  rw [← sent_reaching, h]
  rfl

/-- A process that is published, and its token. -/
def admitted? : Call → Option (UInt32 × Nat)
  | publish (.process pid) token => some (pid, token)
  | _ => none

def admitted (calls : List Call) : List (UInt32 × Nat) := calls.filterMap admitted?

/-- A process is admitted exactly where its token is published. -/
theorem mem_admitted {calls : List Call} {pid : UInt32} {token : Nat} :
    (pid, token) ∈ admitted calls ↔ .publish (.process pid) token ∈ calls := by
  constructor
  · intro h
    obtain ⟨call, hMem, hCall⟩ := List.mem_filterMap.1 h
    cases call with
    | publish what token =>
        cases what with
        | handle => cases hCall
        | process =>
            cases hCall
            exact hMem
    | _ => cases hCall
  · intro h
    exact List.mem_filterMap.2 ⟨_, h, rfl⟩

theorem admitted_reaching (calls : List Call) : admitted (reaching calls) = admitted calls := by
  induction calls with
  | nil => rfl
  | cons call rest ih =>
      cases call with
      | publish what token =>
          cases what with
          | handle => exact ih
          | process => exact congrArg (_ :: ·) ih
      | _ => exact ih

/-- Where no call reaches anybody, nobody is admitted. -/
theorem admitted_of_reaching {calls : List Call} (h : reaching calls = []) : admitted calls = [] := by
  rw [← admitted_reaching, h]
  rfl

end Call

open Call

variable (env : Environment)

namespace Environment

theorem controlCalls_cons (before : Nat) (request : ControlRequest) (requests : List ControlRequest) :
    env.controlCalls before (request :: requests) =
      .control request (succeeds (env.control before request)) ::
        env.controlCalls (before + 1) requests := by
  have hShift : (fun i request => Call.control request
      (succeeds (env.control (before + (i + 1)) request))) =
      fun i request => Call.control request (succeeds (env.control (before + 1 + i) request)) := by
    funext i request
    rw [Nat.add_assoc, Nat.add_comm 1 i]
  rw [controlCalls, List.mapIdx_cons, hShift]
  rfl

/-- The calls for a list of control requests are control calls. -/
theorem mem_controlCalls {before : Nat} {requests : List ControlRequest} {call : Call}
    (h : call ∈ env.controlCalls before requests) : ∃ request succeeded, call = .control request succeeded := by
  obtain ⟨i, _, rfl⟩ := List.mem_mapIdx.1 h
  exact ⟨_, _, rfl⟩

/-- A notice to accessibility clients is one call at most. -/
theorem mem_accessibilityCalls {event : ApplicationEvent} {pid : UInt32} {call : Call}
    (h : call ∈ env.accessibilityCalls event pid) : ∃ succeeded, call = .accessibility event pid succeeded := by
  rw [accessibilityCalls] at h
  split at h
  · cases h
  · exact ⟨_, List.mem_singleton.1 h⟩

@[simp] theorem reaching_controlCalls (before : Nat) (requests : List ControlRequest) :
    reaching (env.controlCalls before requests) = [] := by
  refine List.filter_eq_nil_iff.2 fun call hMem => ?_
  obtain ⟨_, _, rfl⟩ := env.mem_controlCalls hMem
  exact Bool.false_ne_true

@[simp] theorem reaching_accessibilityCalls (event : ApplicationEvent) (pid : UInt32) :
    reaching (env.accessibilityCalls event pid) = [] := by
  refine List.filter_eq_nil_iff.2 fun call hMem => ?_
  obtain ⟨_, rfl⟩ := env.mem_accessibilityCalls hMem
  exact Bool.false_ne_true

end Environment

namespace BringUp

/-- Bring-up makes a wake event if it makes any call at this step. -/
theorem mem_holdWakeEvent {system : System} {created : Nat} {s : Session} {call : Call}
    (h : call ∈ (holdWakeEvent system created s).2) : ∃ issued, call = .createEvent issued := by
  rw [holdWakeEvent] at h
  split at h
  · cases h
  · split at h
    · exact ⟨_, List.mem_singleton.1 h⟩
    · exact ⟨_, List.mem_singleton.1 h⟩

/-- The only call at the window step is the one for the window. -/
theorem mem_openWindow {headless : Bool} {title : String} {size : Size} {call : Call}
    (h : call ∈ (openWindow env headless title size).2) :
    ∃ succeeded, call = .createWindow title size succeeded := by
  rw [openWindow] at h
  split at h
  · cases h
  · split at h
    · exact ⟨_, List.mem_singleton.1 h⟩
    · exact ⟨_, List.mem_singleton.1 h⟩

theorem reaching_holdWakeEvent (system : System) (issued : Nat) (s : Session) :
    reaching (holdWakeEvent system issued s).2 = [] := by
  refine List.filter_eq_nil_iff.2 fun call hMem => ?_
  obtain ⟨_, rfl⟩ := mem_holdWakeEvent hMem
  exact Bool.false_ne_true

theorem reaching_openWindow (headless : Bool) (title : String) (size : Size) :
    reaching (openWindow env headless title size).2 = [] := by
  refine List.filter_eq_nil_iff.2 fun call hMem => ?_
  obtain ⟨_, rfl⟩ := mem_openWindow env hMem
  exact Bool.false_ne_true

end BringUp

namespace Handoff

/-- A negotiation reaches nobody but the handler. -/
theorem reaching_negotiate (serverHandle : Option RawHandle) (target : Clsid)
    (descriptor : Descriptor) (wakeEvent : RawHandle) :
    reaching (negotiate env serverHandle target descriptor wakeEvent).calls = [] := by
  have negotiates := negotiates_negotiate env serverHandle target descriptor wakeEvent
  generalize negotiate env serverHandle target descriptor wakeEvent = exchange at negotiates
  cases negotiates <;> rfl

/-- A handoff attempt publishes nothing and sends nothing to a client. -/
theorem reaching_attempt (serverHandle : Option RawHandle) (target : Clsid)
    (descriptor : Descriptor) (s : Session) :
    reaching (attempt env serverHandle target descriptor s).calls = [] := by
  have hExchange := reaching_negotiate env serverHandle target descriptor (s.wakeEvent.getD .null)
  have hClose : reaching (s.wakeEvent.toList.map Call.close) = [] := by
    cases s.wakeEvent with
    | none => rfl
    | some event => rfl
  rcases hAttempt : attempt env serverHandle target descriptor s with ⟨outcome, session, calls⟩
  cases attempts_of_attempt hAttempt with
  | failed hEnd => rwa [hEnd] at hExchange
  | unrelayed hEnd =>
      rw [hEnd] at hExchange
      simp only [reaching_append, hExchange, hClose, List.nil_append]
      rfl
  | relayed hEnd =>
      rw [hEnd] at hExchange
      rw [reaching_append, reaching_append, hExchange, hClose, reaching_cons_of_not rfl]
      exact env.reaching_controlCalls 0 _

theorem reaching_of_attempt {env : Environment} {serverHandle : Option RawHandle} {target : Clsid}
    {descriptor : Descriptor} {s : Session} {result : Attempt}
    (h : attempt env serverHandle target descriptor s = result) : reaching result.calls = [] :=
  h ▸ reaching_attempt ..

end Handoff

end ConsoleHost
