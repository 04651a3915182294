import ConsoleHost.Proofs.Server.Invariant
import ConsoleHost.Proofs.Session.Geometry

/-! Sizes and titles along a run. Every bring-up that has its wake event follows the hints of its client and the
defaults with which the server was started, and no output buffer ever has a window that exceeds it. -/

namespace ConsoleHost

open Call

namespace Server

variable {env : Environment} {server : Server} {message : Message} {request : ConnectMessage} {info : ConnectInfo}

/-! A server keeps the options it was started with. -/

theorem Hosts.options_eq {issued : Nat} {served : Served} (hosts : Hosts env server issued message info served) :
    served.server.options = server.options := by
  cases hosts with
  | refused => rfl
  | delivered => rfl
  | undelivered => rfl

theorem Connects.options_eq {served : Served} (connects : Connects env server message request served) :
    served.server.options = server.options := by
  cases connects with
  | invalid => rfl
  | hosted => exact hosts_hostLocally.options_eq
  | handedOver => rfl
  | fellBack _ _ _ hServed =>
      subst hServed
      exact hosts_hostLocally.options_eq

theorem options_dispatch : (server.dispatch env message).server.options = server.options := by
  rw [dispatch]
  split
  · simp only [create]
    split
    · rfl
    · rfl
  · rfl
  · exact connects_connect.options_eq
  · simp only [disconnect]
    split
    · rfl
    · rfl
  · simp only [api]
    split
    · rfl
    · rfl

/-- No step changes the options. -/
theorem options_turn (server : Server) (step : Step) : (server.turn step).server.options = server.options := by
  cases step with
  | dispatch env message => exact options_dispatch
  | shutdown => rfl
  | failNext count => rfl
  | focus on => rfl

/-! Bringing the session up. -/

/-- A connect request brings the session up: the message is valid, and the session is down and stays here. It is
offered to no handler, or to one that does not take it, which leaves this session. -/
inductive BringsUp (env : Environment) (server : Server) (message : Message) (info : ConnectInfo) : Session → Prop where
  | hosted {request : ConnectMessage} (hRequest : message.request = .connect request)
      (hInfo : ConnectInfo.ofMessage message.descriptor request = .ok info)
      (hTarget : server.handoffTarget? env info = none) (hDown : server.session.initialized = false) :
      BringsUp env server message info server.session
  | fellBack {request : ConnectMessage} {target : Clsid} {failure : Handoff.Error} {session : Session}
      {calls : List Call} (hRequest : message.request = .connect request)
      (hInfo : ConnectInfo.ofMessage message.descriptor request = .ok info)
      (hTarget : server.handoffTarget? env info = some target)
      (hAttempt : Handoff.attempt env server.transport.serverHandle target message.descriptor
        server.session = ⟨.error failure, session, calls⟩) : BringsUp env server message info session

/-- Hosting a process in a session that is down, after other calls. -/
theorem Hosts.raises {issued : Nat} {served : Served} {before : List Call}
    (hosts : Hosts env server issued message info served) (consistent : server.session.Consistent)
    (hDown : server.session.initialized = false) (hEvent : BringUp.HasEvent env server.session)
    (hBefore : windows before = []) :
    BringUp.Raises env server.options.defaults server.options.launch.headless info served.server.session
      (before ++ served.calls) (BringUp.bufferSize server.options.defaults info)
      (BringUp.windowSize server.options.defaults info) (BringUp.title server.options.defaults info) := by
  have hReply (calls : List Call) (reply : Reply) (delivered : Bool) :
      windows (before ++ (calls ++ [.complete reply delivered])) = windows calls := by
    rw [windows_append, windows_append, hBefore]
    exact List.append_nil _
  cases hosts with
  | refused hAttach =>
      have ends := Attach.ends_of_run consistent hAttach
      apply (ends.raises consistent hDown hEvent).later (ends.consistent consistent).persists
      rw [windows_append, hBefore, List.nil_append]
  | delivered hAttach =>
      have ends := Attach.ends_of_run consistent hAttach
      exact (ends.raises consistent hDown hEvent).later (ends.consistent consistent).persists (hReply ..)
  | undelivered hAttach =>
      have ends := Attach.ends_of_run consistent hAttach
      exact (ends.raises consistent hDown hEvent).later
        ((ends.consistent consistent).persists_rollback info.pid) (hReply ..)

/-- A message that brings the session up asks for the window that its hints and the defaults give. -/
theorem BringsUp.raises {s : Session} (brings : BringsUp env server message info s)
    (consistent : server.session.Consistent) (hEvent : BringUp.HasEvent env s) :
    BringUp.Raises env server.options.defaults server.options.launch.headless info
      (server.dispatch env message).server.session (server.dispatch env message).calls
      (BringUp.bufferSize server.options.defaults info) (BringUp.windowSize server.options.defaults info)
      (BringUp.title server.options.defaults info) := by
  cases brings with
  | hosted hRequest hInfo hTarget hDown =>
      have hosted : Hosts env server.counted 0 message info _ := hosts_hostLocally
      have hNothing : windows [] = [] := rfl
      simp only [dispatch, hRequest, connect_of_hosted hInfo hTarget]
      exact hosted.raises consistent hDown hEvent hNothing
  | @fellBack _ target failure _ calls hRequest hInfo hTarget hAttempt =>
      have hosted : Hosts env (server.declined target failure s) (Call.issued calls).length message info _ :=
        hosts_hostLocally
      have hDown : s.initialized = false :=
        (Handoff.initialized_of_attempt hAttempt).trans (initialized_of_handoffTarget? hTarget)
      have hBefore : windows calls = [] :=
        windows_eq_nil fun call hMem => (Handoff.hosts_nothing_of_attempt_error hAttempt call hMem).2
      simp only [dispatch, hRequest, connect_of_fellBack hInfo hTarget hAttempt]
      exact hosted.raises (consistent_attempt consistent hTarget hAttempt) hDown hEvent hBefore

/-! What holds of all endpoints. -/

section

variable {P : Endpoint → Prop}

/-- A create request makes no endpoint but a copy of the active output. -/
theorem every_create {request : CreateRequest} (sound : server.session.registry.Sound)
    (every : server.session.registry.Every P) :
    (server.create message request).server.session.registry.Every P := by
  obtain ⟨refusal, hOpen⟩ | ⟨session, hOpen, opens⟩ := Session.openObject_cases sound request
  · simp only [create, hOpen]
    exact every
  · have opened := opens.every every
    simp only [create, hOpen]
    split
    · exact opened
    · exact opened.discardHandle _

theorem every_close (every : server.session.registry.Every P) :
    (server.close message).server.session.registry.Every P :=
  every.discardHandle message.descriptor.handle

theorem every_disconnect (hStandard : env.Standard) (every : server.session.registry.Every P) :
    (server.disconnect env message).server.session.registry.Every P := by
  simp only [disconnect]
  split
  · exact every
  · next record _ =>
      simp only [hStandard.depart_eq, Session.snd_depart]
      exact Session.every_rollback every record.pid

theorem every_api (hStandard : env.Standard) (every : server.session.registry.Every P) :
    (server.api env message).server.session.registry.Every P := by
  simp only [api]
  split
  · exact every
  · simp only [hStandard.session_answer]
    exact every

/-- Hosting a connect keeps what holds of every endpoint, if it holds of the two that bring-up makes. -/
theorem Hosts.every {issued : Nat} {served : Served} (hosts : Hosts env server issued message info served)
    (covers : BringUp.Covers server.options.defaults P) (consistent : server.session.Consistent)
    (every : server.session.registry.Every P) : served.server.session.registry.Every P := by
  have hAttached {o : Attach.Outcome} (hAttach : Attach.run env server.options.defaults
      server.options.launch.headless issued server.session server.transport info = o) :
      o.session.registry.Every P :=
    (Attach.ends_of_run consistent hAttach).every covers consistent.sound every
  cases hosts with
  | refused hAttach => exact hAttached hAttach
  | delivered hAttach => exact hAttached hAttach
  | undelivered hAttach => exact Session.every_rollback (hAttached hAttach) info.pid

/-- A connect does so too, handed over or not. -/
theorem Connects.every {served : Served} (connects : Connects env server message request served)
    (covers : BringUp.Covers server.options.defaults P) (consistent : server.session.Consistent)
    (every : server.session.registry.Every P) :
    served.server.session.registry.Every P := by
  cases connects with
  | invalid => exact every
  | @hosted info =>
      have hosted : Hosts env server.counted 0 message info _ := hosts_hostLocally
      exact hosted.every covers consistent every
  | handedOver _ _ hAttempt => exact Handoff.registry_of_attempt hAttempt ▸ every
  | @fellBack info target failure session calls _ _ hTarget hAttempt hServed =>
      subst hServed
      have hosted : Hosts env (server.declined target failure session) (Call.issued calls).length message info _ :=
        hosts_hostLocally
      have hRegistry : session.registry = server.session.registry := Handoff.registry_of_attempt hAttempt
      have declined : session.registry.Every P := hRegistry ▸ every
      exact hosted.every covers (consistent_attempt consistent hTarget hAttempt) declined

/-- What holds of every endpoint, and of those that bring-up makes, holds after every step. -/
theorem every_turn {step : Step} (hStandard : step.Standard) (covers : BringUp.Covers server.options.defaults P)
    (consistent : server.session.Consistent) (every : server.session.registry.Every P) :
    (server.turn step).server.session.registry.Every P := by
  cases step with
  | dispatch env message =>
      simp only [turn]
      rw [dispatch]
      split
      · exact every_create consistent.sound every
      · exact every_close every
      · exact connects_connect.every covers consistent every
      · exact every_disconnect hStandard every
      · exact every_api hStandard every
  | shutdown => exact Session.every_teardown every
  | failNext count => exact every
  | focus on => exact every

end

/-- Along a run, the options and what holds of the endpoints that they allow for stay. -/
theorem Run.every {first last : Server} {turns : List Turn} (run : Run first turns last) (started : Started first)
    {P : Endpoint → Prop} (covers : BringUp.Covers first.options.defaults P) :
    last.options = first.options ∧ last.session.registry.Every P := by
  induction run with
  | idle =>
      obtain ⟨options, capacity, serverHandle, event, rfl⟩ := started.eq_fresh
      exact ⟨rfl, Registry.every_empty⟩
  | step prior step hStandard ih =>
      obtain ⟨hOptions, every⟩ := ih
      refine ⟨(options_turn _ step).trans hOptions, ?_⟩
      rw [← hOptions] at covers
      exact every_turn hStandard covers (prior.consistent started.consistent) every

/-- In every run, and with any defaults and hints, a bring-up that has its wake event takes the sizes and the title
that its client and the defaults call for, and asks the window host for that title and that window, once and only if
there is to be a window. And at any time every output buffer, also one that was created as a copy, has a window that
fits into it, and neither is empty if the defaults are not. -/
theorem geometry_follows_hints {first last : Server} {turns : List Turn} (started : Started first)
    (run : Run first turns last) :
    (∀ env message info s, BringsUp env last message info s → BringUp.HasEvent env s →
      ∃ buffer window title, BringUp.Raises env first.options.defaults first.options.launch.headless info
        (last.dispatch env message).server.session (last.dispatch env message).calls buffer window title) ∧
      ∀ id object buffer window, last.session.registry.object? id = some object →
        object.endpoint = .output buffer window →
        window.Fits buffer ∧ (first.options.defaults.bufferSize.NonEmpty →
          first.options.defaults.windowSize.NonEmpty → buffer.NonEmpty ∧ window.NonEmpty) := by
  obtain ⟨hOptions, every⟩ := run.every started (BringUp.covers_framed _)
  refine ⟨fun env message info s brings hEvent => ?_, fun id object buffer window hObject hOutput => ?_⟩
  · rw [← hOptions]
    exact ⟨_, _, _, brings.raises (run.consistent started.consistent) hEvent⟩
  · have framed := every.of_object? hObject
    rwa [hOutput] at framed

/-- A process connects with hints of its own. -/
def hinting (pid : UInt64) (title appName : String) (buffer window : Size) : Message where
  descriptor := ⟨1, pid, pid, 0, ConnectInfo.messageSize, 0⟩
  request := .connect ⟨true, true, 0, appName, title, "", 0, 0, buffer, window⟩

/-- A small buffer with half a hint for its window, a copy of it that outlives the session, and a window wider than
the default buffer of the next session. -/
def partlyHinted : List Step :=
  [.dispatch quiet (hinting 7 "" "edit.exe" ⟨40, 10⟩ ⟨0, 5⟩), .dispatch quiet creating, .shutdown,
    .dispatch quiet (hinting 9 "log" "edit.exe" ⟨300, 0⟩ ⟨200, 2⟩)]

theorem geometry_follows_hints_partly :
    (begun.turns partlyHinted).map (fun turn => windows turn.calls) =
        [[("edit.exe", ⟨40, 10⟩, true)], [], [], [("log", ⟨120, 2⟩, true)]] ∧
      (begun.follow partlyHinted).session.registry.objects.values.map SessionObject.endpoint =
        [.output ⟨40, 10⟩ ⟨40, 10⟩, .input (StandIn.event 0), .output ⟨120, 9001⟩ ⟨120, 2⟩] ∧
      ∀ id object buffer window, (begun.follow partlyHinted).session.registry.object? id = some object →
        object.endpoint = .output buffer window → window.Fits buffer ∧ buffer.NonEmpty ∧ window.NonEmpty := by
  have hStandard : ∀ step ∈ partlyHinted, step.Standard := standard_quiet (by simp [partlyHinted])
  obtain ⟨-, hSizes⟩ := geometry_follows_hints started_begun (Run.idle.follow hStandard)
  refine ⟨by decide, by decide, fun id object buffer window hObject hOutput => ?_⟩
  obtain ⟨hFits, hNonEmpty⟩ := hSizes id object buffer window hObject hOutput
  exact ⟨hFits, hNonEmpty (by decide) (by decide)⟩

end Server

end ConsoleHost
