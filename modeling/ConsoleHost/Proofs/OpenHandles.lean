import ConsoleHost.Proofs.Calls
import Mathlib.Data.Multiset.AddSub

/-! Which handles of the operating system are open. A handle is open from the call that brings it in to the
call that closes it, and only an open handle can be closed. An exchange with a handoff handler opens the
representative or nothing, and bringing a session up opens at most its wake event. -/

namespace ConsoleHost

namespace Call

def advance (opened : Multiset RawHandle) (call : Call) : Option (Multiset RawHandle) :=
  match call.closed? with
  | some handle => if handle ∈ opened then some (opened.erase handle) else none
  | none => some (call.issued?.elim opened (· ::ₘ opened))

/-- The handles open after some calls. There is no answer if one of the calls closes a handle that is not
open when it is made. -/
def openAfter (opened : Multiset RawHandle) (calls : List Call) : Option (Multiset RawHandle) :=
  calls.foldlM advance opened

/-- No handle comes in or goes with this call, and no process is waited for. -/
def idle : Call → Bool
  | .waitForExit _ => false
  | call => call.issued?.isNone && call.closed?.isNone

/-- Calls lead from some open handles to others, and nothing but a process that is waited for is open while
it is. -/
structure Leads (opened : Multiset RawHandle) (calls : List Call) (left : Multiset RawHandle) : Prop where
  openAfter_eq : openAfter opened calls = some left
  waits_alone : ∀ before process after, calls = before ++ .waitForExit process :: after →
    openAfter opened before = some {process}

variable {opened left : Multiset RawHandle} {calls more : List Call} {call : Call} {handle : RawHandle}

@[simp] theorem openAfter_nil : openAfter opened [] = some opened := rfl

theorem openAfter_cons : openAfter opened (call :: calls) = (advance opened call).bind (openAfter · calls) :=
  rfl

/-- What is open after two lists of calls is what is open after the second, from where the
first left off. -/
theorem openAfter_append : openAfter opened (calls ++ more) = (openAfter opened calls).bind (openAfter · more) :=
  List.foldlM_append

/-- No call both brings a handle in and closes one. -/
theorem issued?_eq_none_or (call : Call) : call.issued? = none ∨ call.closed? = none := by
  cases call <;> simp [issued?, closed?]

/-- A call that issues a handle opens it. -/
theorem advance_of_issued (h : call.issued? = some handle) : advance opened call = some (handle ::ₘ opened) := by
  have hOpen : call.closed? = none := call.issued?_eq_none_or.resolve_left (by simp [h])
  simp [advance, hOpen, h]

/-- A handle that is open can be closed. -/
theorem advance_close : advance (handle ::ₘ opened) (.close handle) = some opened := by
  simp [advance, closed?]

/-- A call that neither issues nor closes leaves the open handles alone. -/
theorem advance_of_idle (h : call.idle = true) : advance opened call = some opened := by
  have hBoth : call.issued? = none ∧ call.closed? = none := by
    cases call <;> simp_all [idle, issued?, closed?]
  simp [advance, hBoth]

theorem leads_nil : Leads opened [] opened := ⟨rfl, by simp⟩

/-- Lists of calls lead on from one another. -/
theorem Leads.append {middle : Multiset RawHandle} (first : Leads opened calls middle)
    (second : Leads middle more left) : Leads opened (calls ++ more) left := by
  refine ⟨?_, fun before process after hSplit => ?_⟩
  · rw [openAfter_append, first.openAfter_eq]
    exact second.openAfter_eq
  · -- The wait is among the later calls, or all before it are among the earlier ones.
    rcases List.append_eq_append_iff.1 hSplit with ⟨rest, rfl, hRest⟩ | ⟨rest, hFirst, hRest⟩
    · rw [openAfter_append, first.openAfter_eq]
      exact second.waits_alone rest process after hRest
    · cases rest with
      | nil =>
          rw [List.append_nil] at hFirst
          rw [← hFirst, first.openAfter_eq]
          exact second.waits_alone [] process after hRest.symm
      | cons call rest =>
          obtain ⟨rfl, _⟩ := List.cons.inj hRest
          exact first.waits_alone before process rest hFirst

/-- A single call leads to what it leaves open. -/
theorem leads_singleton (h : advance opened call = some left)
    (hWaits : ∀ process, call = .waitForExit process → opened = {process}) : Leads opened [call] left := by
  refine ⟨by simp [openAfter_cons, h], fun before process after hSplit => ?_⟩
  cases before with
  | nil =>
      obtain ⟨hCall, -⟩ := List.cons.inj hSplit
      rw [openAfter_nil, hWaits process hCall]
  | cons first rest => simp at hSplit

/-- Handles are taken in one after the other, and the newest is named first. -/
theorem Leads.issue (rest : Leads (handle ::ₘ opened) calls left) (h : call.issued? = some handle) :
    Leads opened (call :: calls) left := by
  refine (leads_singleton (advance_of_issued h) ?_).append rest
  rintro process rfl
  cases h

/-- A handle that is open may be closed first. -/
theorem Leads.close (rest : Leads opened calls left) : Leads (handle ::ₘ opened) (.close handle :: calls) left :=
  (leads_singleton advance_close (by simp)).append rest

/-- Calls that neither issue nor close lead back to the same handles. -/
theorem leads_of_idle (h : ∀ call ∈ calls, call.idle = true) : Leads opened calls opened := by
  induction calls with
  | nil => exact leads_nil
  | cons call rest ih =>
      have hIdle := h call (List.mem_cons_self ..)
      refine (leads_singleton (advance_of_idle hIdle) ?_).append
        (ih fun later hMem => h later (List.mem_cons_of_mem _ hMem))
      rintro process rfl
      cases hIdle

theorem Leads.pass (rest : Leads opened calls left) (h : call.idle = true) :
    Leads opened (call :: calls) left :=
  (leads_of_idle (List.forall_mem_singleton.2 h)).append rest

theorem leads_close_last : Leads {handle} [.close handle] 0 := leads_nil.close

/-- Waiting for the one open process and closing it leaves nothing open. -/
theorem leads_wait (process : RawHandle) :
    Leads {process} [.waitForExit process, .close process] 0 := by
  have hWait : Leads {process} [.waitForExit process] {process} :=
    leads_singleton rfl (by simp)
  exact hWait.append leads_close_last

/-- What was brought in is what was closed and what is still open, handle by handle. -/
theorem add_issued_eq (h : openAfter opened calls = some left) :
    opened + (issued calls : Multiset RawHandle) = closed calls + left := by
  induction calls generalizing opened with
  | nil =>
      cases h
      simp [issued, closed]
  | cons call rest ih =>
      rw [openAfter_cons] at h
      obtain ⟨middle, hMiddle, hRest⟩ := Option.bind_eq_some_iff.1 h
      have hLater := ih hRest
      cases hClosed : call.closed? with
      | some handle =>
          have hIssued : call.issued? = none := call.issued?_eq_none_or.resolve_right (by simp [hClosed])
          simp only [advance, hClosed, Option.ite_none_right_eq_some, Option.some.injEq] at hMiddle
          obtain ⟨hOpen, rfl⟩ := hMiddle
          rw [issued, closed, List.filterMap_cons_none hIssued, List.filterMap_cons_some hClosed,
            ← Multiset.cons_coe, Multiset.cons_add]
          calc
            _ = handle ::ₘ (opened.erase handle + (issued rest : Multiset RawHandle)) := by
              rw [← Multiset.cons_add, Multiset.cons_erase hOpen]
              rfl
            _ = handle ::ₘ ((closed rest : Multiset RawHandle) + left) := by rw [hLater]
      | none =>
          cases hIssued : call.issued? with
          | some handle =>
              cases (advance_of_issued hIssued).symm.trans hMiddle
              rw [issued, closed, List.filterMap_cons_some hIssued, List.filterMap_cons_none hClosed,
                ← Multiset.cons_coe, Multiset.add_cons, ← Multiset.cons_add]
              exact hLater
          | none =>
              simp only [advance, hClosed, hIssued, Option.elim_none, Option.some.injEq] at hMiddle
              subst hMiddle
              rw [issued, closed, List.filterMap_cons_none hIssued, List.filterMap_cons_none hClosed]
              exact hLater

end Call

open Call

/-- The handles that a session holds: its wake event, if there is one. -/
def Session.held (s : Session) : Multiset RawHandle := s.wakeEvent.toList

variable {env : Environment} {opened : Multiset RawHandle}

theorem Environment.leads_controlCalls (before : Nat) (requests : List ControlRequest) :
    Leads opened (env.controlCalls before requests) opened := by
  refine leads_of_idle fun call hMem => ?_
  obtain ⟨_, _, rfl⟩ := env.mem_controlCalls hMem
  rfl

theorem Environment.leads_accessibilityCalls (event : ApplicationEvent) (pid : UInt32) :
    Leads opened (env.accessibilityCalls event pid) opened := by
  refine leads_of_idle fun call hMem => ?_
  obtain ⟨_, rfl⟩ := env.mem_accessibilityCalls hMem
  rfl

/-- Bring-up leaves the wake event open, if there is one or it can make one. -/
theorem BringUp.leads_holdWakeEvent {system : System} {issued : Nat} {s : Session}
    {result : Except Refusal RawHandle} {calls : List Call}
    (h : holdWakeEvent system issued s = (result, calls)) :
    Leads s.held calls (match result with
      | .ok event => {event}
      | .error _ => s.held) := by
  simp only [holdWakeEvent] at h
  split at h
  · next event hEvent =>
      cases h
      simpa [Session.held, hEvent] using leads_nil
  · next hEvent =>
      simp only [Session.held, hEvent]
      split at h <;> cases h
      · exact leads_nil.pass rfl
      · exact leads_nil.issue rfl

theorem BringUp.leads_openWindow (headless : Bool) (title : String) (size : Size) :
    Leads opened (openWindow env headless title size).2 opened := by
  refine leads_of_idle fun call hMem => ?_
  obtain ⟨_, rfl⟩ := mem_openWindow env hMem
  rfl

namespace Handoff

variable {serverHandle : Option RawHandle} {target : Clsid} {descriptor : Descriptor}
  {wakeEvent : RawHandle}

/-- An exchange closes everything that it opens, but for the representative of an accepted offer. -/
theorem Negotiates.leads {result : Negotiation}
    (negotiates : Negotiates env serverHandle target descriptor wakeEvent result) :
    Leads opened result.calls (match result.outcome with
      | .error _ => opened
      | .ok established => established.representative ::ₘ opened) := by
  cases negotiates with
  | unregistered => exact leads_of_idle (by simp [idle, issued?, closed?])
  | noServer => exact leads_of_idle (by simp [idle, issued?, closed?])
  | noPipe => exact leads_of_idle (by simp [idle, issued?, closed?])
  | noProcess => exact .pass (.pass (.issue (.pass leads_nil.close rfl) rfl) rfl) rfl
  | refused => exact .pass (.pass (.issue (.issue (.pass leads_nil.close.close rfl) rfl) rfl) rfl) rfl
  | accepted =>
      refine .pass (.pass (.issue (.issue (.pass (.issue ?_ rfl) rfl) rfl) rfl) rfl) rfl
      -- The representative came in last and stays open while both copies are closed.
      rw [Multiset.cons_swap (env.system.issue 1), Multiset.cons_swap (env.system.issue 2),
        Multiset.cons_swap (env.system.issue 2)]
      exact leads_nil.close.close

/-- Closing the wake event of the session leaves the process open alone. -/
theorem leads_close_wakeEvent (process : RawHandle) (s : Session) :
    Leads (process ::ₘ s.held) (s.wakeEvent.toList.map Call.close) {process} := by
  cases hEvent : s.wakeEvent with
  | none => simpa [Session.held, hEvent] using leads_nil
  | some event =>
      have hOpen : process ::ₘ s.held = event ::ₘ {process} := by
        simpa [Session.held, hEvent] using Multiset.cons_swap process event 0
      rw [hOpen]
      exact leads_nil.close

/-- What is open after an attempt: the wake event that the session still holds, or the representative alone. -/
theorem Attempts.leads {s : Session} {result : Attempt}
    (attempts : Attempts env serverHandle target descriptor s result) :
    Leads s.held result.calls (match result.outcome with
      | .error _ => result.session.held
      | .ok process => {process}) := by
  have hExchange : Leads s.held _ _ := (negotiates_negotiate env serverHandle target descriptor
    (s.wakeEvent.getD .null)).leads
  cases attempts with
  | failed hFailed =>
      rw [hFailed] at hExchange
      exact hExchange
  | @unrelayed established calls reason hAccepted =>
      rw [hAccepted] at hExchange
      exact (hExchange.append (leads_close_wakeEvent _ s)).append (.pass leads_nil.close rfl)
  | @relayed established calls hAccepted =>
      rw [hAccepted] at hExchange
      exact (hExchange.append (leads_close_wakeEvent _ s)).append (.pass (env.leads_controlCalls ..) rfl)

end Handoff

end ConsoleHost
