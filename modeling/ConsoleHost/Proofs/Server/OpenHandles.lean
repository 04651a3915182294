import ConsoleHost.Proofs.OpenHandles
import ConsoleHost.Proofs.Server.Stable

/-! The handles of the operating system over a whole run. Between two steps a server holds its wake event
and nothing else, whatever fails on the way, and while it waits for another host it holds nothing but that
host's process. -/

namespace ConsoleHost

open Call

variable {env : Environment}

theorem Call.idle_of_serves {call : Call} (h : call.serves = true) : call.idle = true := by
  cases call with
  | control => rfl
  | accessibility => rfl
  | publish => rfl
  | complete => rfl
  | api => rfl
  | _ => cases h

/-- Bring-up leaves open the wake event that the session then holds, and nothing else. -/
theorem BringUp.Ends.leads {defaults : SessionDefaults} {headless : Bool} {issued : Nat} {s : Session}
    {info : ConnectInfo} {o : Outcome} (ends : Ends env defaults headless issued s info o) :
    Leads s.held o.calls o.session.held := by
  have hWindow {event : RawHandle} :
      Leads {event} (openWindow env headless (title defaults info) (windowSize defaults info)).2 {event} :=
    leads_openWindow headless _ _
  cases ends with
  | already => exact leads_nil
  | noEvent _ hEvent => exact leads_holdWakeEvent hEvent
  | noWindow _ hEvent hRefused =>
      rw [hRefused] at hWindow
      exact (leads_holdWakeEvent hEvent).append hWindow
  | raised _ hEvent hShown =>
      rw [hShown] at hWindow
      exact (leads_holdWakeEvent hEvent).append hWindow

namespace Attach

variable {defaults : SessionDefaults} {headless : Bool} {issued : Nat} {s u : Session} {t : Loopback}
  {info : ConnectInfo} {o : Outcome} {opened : Multiset RawHandle}

theorem leads_greeting : Leads opened (greeting env info) opened :=
  (env.leads_controlCalls ..).append (env.leads_accessibilityCalls ..)

theorem leads_rights {record : ProcessRecord} : Leads opened (rights env u info record) opened :=
  env.leads_controlCalls ..

/-- An attach opens and closes nothing but the wake event. -/
theorem Ends.leads (ends : Ends env defaults headless issued s t info o) (sound : s.registry.Sound) :
    Leads s.held o.calls o.session.held := by
  cases ends with
  | known => exact leads_nil
  | notUp _ hUp => exact leads_greeting.append (BringUp.ends_of_run sound hUp).leads
  | inputRefused => exact leads_greeting.append leads_rights
  | outputRefused => exact leads_greeting.append leads_rights
  | attached _ hUp _ _ _ _ hPublished =>
      subst hPublished
      refine (leads_greeting.append (BringUp.ends_of_run sound hUp).leads).append
        (leads_rights.append (leads_of_idle ?_))
      simp [Loopback.publishConnection, idle, issued?, closed?]

end Attach

theorem Session.wakeEvent_rollback (s : Session) (pid : UInt32) :
    (s.rollback pid).wakeEvent = s.wakeEvent := by
  cases hFind : s.processes.find? pid with
  | none =>
      rw [rollback_of_not_mem (ProcessTable.find?_eq_none_iff.1 hFind)]
      rfl
  | some record => rw [rollback_of_find? hFind]

theorem Session.held_rollback (s : Session) (pid : UInt32) : (s.rollback pid).held = s.held := by
  rw [held, wakeEvent_rollback, held]

namespace Server

variable {server : Server} {message : Message}

/-- A connect that is hosted here leaves open what its session holds. -/
theorem Hosts.leads {issued : Nat} {info : ConnectInfo} {served : Served}
    (hosts : Hosts env server issued message info served) (consistent : server.session.Consistent) :
    Leads server.session.held served.calls served.server.session.held := by
  cases hosts with
  | refused hAttach => exact (Attach.ends_of_run consistent hAttach).leads consistent.sound
  | delivered hAttach =>
      exact ((Attach.ends_of_run consistent hAttach).leads consistent.sound).append (leads_nil.pass rfl)
  | undelivered hAttach =>
      rw [Session.held_rollback]
      exact ((Attach.ends_of_run consistent hAttach).leads consistent.sound).append (leads_nil.pass rfl)

theorem leads_hostLocally (server : Server) {issued : Nat} {info : ConnectInfo}
    (consistent : server.session.Consistent) :
    Leads server.session.held (server.hostLocally env issued message info).calls
      (server.hostLocally env issued message info).server.session.held :=
  hosts_hostLocally.leads consistent

/-- A connect leaves open what its session holds, handed over or not. -/
theorem Connects.leads {request : ConnectMessage} {served : Served}
    (connects : Connects env server message request served) (consistent : server.session.Consistent) :
    Leads server.session.held served.calls served.server.session.held := by
  cases connects with
  | invalid => exact leads_nil
  | hosted => exact server.counted.leads_hostLocally consistent
  | handedOver _ _ hAttempt =>
      have attempts := Handoff.attempts_of_attempt hAttempt
      refine attempts.leads.append ?_
      cases attempts with
      | relayed => exact leads_wait _
  | @fellBack _ target failure session _ _ _ hTarget hAttempt hServed =>
      subst hServed
      exact (Handoff.attempts_of_attempt hAttempt).leads.append
        ((server.declined target failure session).leads_hostLocally
          (consistent_attempt consistent hTarget hAttempt))

/-- Nothing but a connect request brings handles in or closes any. -/
theorem leads_of_not_connect (hStandard : env.Standard) (consistent : server.session.Consistent)
    (hRequest : ∀ request, message.request ≠ .connect request) :
    Leads server.session.held (server.dispatch env message).calls
      (server.dispatch env message).server.session.held := by
  have persists := persists_dispatch_of_not_connect hStandard consistent hRequest
  rw [Session.held, Session.held, persists.wakeEvent_eq]
  exact leads_of_idle fun _ hMem => idle_of_serves (serves_of_mem_dispatch hRequest hMem)

/-- Every message leaves open what the session then holds. -/
theorem leads_dispatch (hStandard : env.Standard) (consistent : server.session.Consistent) :
    Leads server.session.held (server.dispatch env message).calls
      (server.dispatch env message).server.session.held := by
  by_cases hRequest : ∃ request, message.request = .connect request
  · obtain ⟨request, hRequest⟩ := hRequest
    exact (connects_dispatch hRequest).leads consistent
  · rw [not_exists] at hRequest
    exact leads_of_not_connect hStandard consistent hRequest

/-- Shutdown closes the wake event, if there is one. -/
theorem leads_shutdown :
    Leads server.session.held server.shutdown.2 server.shutdown.1.session.held := by
  cases hEvent : server.session.wakeEvent with
  | none => simpa [shutdown, Session.held, Session.teardown, hEvent] using leads_nil
  | some event => simpa [shutdown, Session.held, Session.teardown, hEvent] using leads_close_last

/-- Every step leaves open what the session then holds. -/
theorem leads_turn {step : Step} (hStandard : step.Standard) (consistent : server.session.Consistent) :
    Leads server.session.held (server.turn step).calls (server.turn step).server.session.held := by
  cases step with
  | dispatch env message => exact leads_dispatch hStandard consistent
  | shutdown => exact leads_shutdown
  | failNext count => exact leads_nil
  | focus on => exact leads_nil

/-- All calls of a run, in order. -/
def trace (turns : List Turn) : List Call := turns.flatMap Turn.calls

/-- Over a run, the only handle left open is the wake event. -/
theorem Run.leads {first : Server} {turns : List Turn} (run : Run first turns server)
    (consistent : first.session.Consistent) :
    Leads first.session.held (trace turns) server.session.held := by
  induction run with
  | idle => exact leads_nil
  | step prior step hStandard ih =>
      rw [trace, List.flatMap_append, List.flatMap_singleton]
      exact ih.append (leads_turn hStandard (prior.consistent consistent))

variable {options : Options} {capacity : Nat} {serverHandle : Option RawHandle} {first : Server}
  {opening : List Call} {turns : List Turn}

/-- The start leaves open the wake event of the first session. -/
theorem leads_start {histories : HistoryPool} {transport : Loopback}
    (h : start env options histories transport = (.ok first, opening)) :
    Leads 0 opening first.session.held := by
  rw [start] at h
  split at h
  · cases h
  · cases h
    exact leads_nil.issue rfl

/-- The relay cannot be started for the first process and no window opens for it, so the session stays down
with a new wake event. It is handed over with that one for the second process. -/
def handingOver : List Step :=
  [.dispatch
    { willing 1 with
      startRelay := .error "no thread"
      createWindow := fun _ _ => .error (.unavailable "window host") } (connecting 7),
   .dispatch (willing 5) (connecting 8)]

theorem standard_handingOver : ∀ step ∈ handingOver, step.Standard := by
  simp only [handingOver, List.forall_mem_cons]
  exact ⟨⟨rfl, fun _ _ => rfl⟩, standard_willing 5, by simp⟩

end Server

end ConsoleHost
