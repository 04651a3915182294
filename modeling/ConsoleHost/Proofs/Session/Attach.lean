import ConsoleHost.Proofs.Session.WithProcess

/-! What attaching a process can end in. A process that does not get through is gone again, and its
history buffer and its handles are given back; identifiers stay used up. -/

namespace ConsoleHost.Attach

def joining (s : Session) (info : ConnectInfo) : ProcessRecord :=
  .joining info.pid info.tid info.group (!s.initialized)

/-- The record once the foreground rights have been spread. -/
def seated (s u : Session) (info : ConnectInfo) : ProcessRecord :=
  { joining s info with foreground := u.grantsForeground }

def joined (s u : Session) (info : ConnectInfo) (input output : HandleId) (token : Nat) :
    ProcessRecord :=
  { seated s u info with input := some input, output := some output, token := some token }

/-- The calls that announce a process, to process control and to the accessibility layer. -/
def greeting (env : Environment) (info : ConnectInfo) : List Call :=
  env.controlCalls 0 (announcements info) ++ env.accessibilityCalls .started info.pid

/-- The calls that spread foreground rights once a process has joined. -/
def rights (env : Environment) (u : Session) (info : ConnectInfo) (record : ProcessRecord) : List Call :=
  env.controlCalls (announcements info).length
    { u with processes := u.processes.enter record }.foregroundRequests

variable (env : Environment) (defaults : SessionDefaults) (headless : Bool) (issued : Nat)
  (s : Session) (t : Loopback) (info : ConnectInfo)

/-- Everything that attaching a process can end in. -/
inductive Ends : Outcome → Prop where
  | known (hKnown : info.pid ∈ s.processes.pids) :
      Ends ⟨.error (.alreadyConnected info.pid), s, t, []⟩
  | notUp {refusal : Refusal} {u : Session} {calls : List Call} (hNew : info.pid ∉ s.processes.pids)
      (hUp : BringUp.run env defaults headless issued s info = ⟨.error refusal, u, calls⟩) :
      Ends ⟨.error refusal, u, t, greeting env info ++ calls⟩
  | inputRefused {refusal : Refusal} {input : ObjectId} (hNew : info.pid ∉ s.processes.pids)
      (hUp : s.initialized = true) (hInput : s.input = some input)
      (hRefused : s.registry.openHandle input .readWrite .all = (.error refusal, s.registry)) :
      Ends ⟨.error refusal, s.undone info s.registry, t,
        greeting env info ++ rights env s info (joining s info)⟩
  | outputRefused {refusal : Refusal} {input output : ObjectId} {one closed : Registry}
      (hNew : info.pid ∉ s.processes.pids) (hUp : s.initialized = true)
      (hInput : s.input = some input) (hOutput : s.activeOutput = some output)
      (hOne : s.registry.openHandle input .readWrite .all = (.ok s.registry.nextHandle, one))
      (hRefused : one.openHandle output .readWrite .all = (.error refusal, one))
      (restores : s.registry.Restores closed 1) :
      Ends ⟨.error refusal, s.undone info closed, t,
        greeting env info ++ rights env s info (joining s info)⟩
  | attached {u : Session} {calls : List Call} {input output : ObjectId} {one two : Registry}
      {published : Publication} (hNew : info.pid ∉ s.processes.pids)
      (hUp : BringUp.run env defaults headless issued s info = ⟨.ok (), u, calls⟩)
      (hInput : u.input = some input) (hOutput : u.activeOutput = some output)
      (hOne : u.registry.openHandle input .readWrite .all = (.ok u.registry.nextHandle, one))
      (hTwo : one.openHandle output .readWrite .all = (.ok one.nextHandle, two))
      (hPublished :
        t.publishConnection info.pid u.registry.nextHandle one.nextHandle = published) :
      Ends {
        result := .ok published.tokens
        session := u.withProcess info
          (joined s u info u.registry.nextHandle one.nextHandle published.tokens.process) two
        transport := published.transport
        calls := greeting env info ++ calls ++ (rights env u info (joining s info) ++ published.calls) }

variable {env defaults headless issued s t info} {u : Session} {record : ProcessRecord}
  {input output : ObjectId} {one two : Registry}

/-- Entering a process and bringing the flags up to date is what an admission does to the table. -/
theorem spreadForeground_joining :
    ({ u with processes := u.processes.enter (joining s info) }.requestHistory info.appName
      info.pid).spreadForeground = u.withProcess info (seated s u info) u.registry := by
  have hRights : (u.processes.enter (joining s info)).setForeground u.grantsForeground = _ :=
    ProcessTable.setForeground_enter u.grantsForeground
  exact congrArg (fun processes => { u with
    processes := processes, histories := u.histories.request info.appName info.pid }) hRights

/-! The steps after bring-up, for a process whose record is there. -/

section

variable {refusal : Refusal} (hInput : u.input = some input) (hOutput : u.activeOutput = some output)

include hInput hOutput

/-- If the input cannot be opened, the new process is not settled. -/
theorem settle_of_inputRefused
    (hRefused : u.registry.openHandle input .readWrite .all = (.error refusal, u.registry)) :
    settle env (announcements info).length { u with processes := u.processes.enter (joining s info) }
      t info =
      ⟨.error refusal, u.withProcess info (seated s u info) u.registry, t,
        rights env u info (joining s info)⟩ := by
  simp only [settle, spreadForeground_joining,
    Session.openPrimaries_withProcess_of_inputRefused hInput hOutput hRefused]
  rfl

variable (hNew : info.pid ∉ u.processes.pids)
  (hOne : u.registry.openHandle input .readWrite .all = (.ok u.registry.nextHandle, one))

include hNew hOne

/-- If the output cannot be opened, the input handle stays behind for the rollback. -/
theorem settle_of_outputRefused
    (hRefused : one.openHandle output .readWrite .all = (.error refusal, one)) :
    settle env (announcements info).length { u with processes := u.processes.enter (joining s info) }
      t info =
      ⟨.error refusal,
        u.withProcess info { seated s u info with input := some u.registry.nextHandle } one, t,
        rights env u info (joining s info)⟩ := by
  have hSeated : (seated s u info).pid = info.pid := rfl
  simp only [settle, spreadForeground_joining,
    Session.openPrimaries_withProcess_of_outputRefused hNew hSeated hInput hOutput hOne hRefused]
  rfl

/-- With both handles open, the new process is settled and its tokens are published. -/
theorem settle_of_opened (hTwo : one.openHandle output .readWrite .all = (.ok one.nextHandle, two)) :
    settle env (announcements info).length { u with processes := u.processes.enter (joining s info) }
      t info =
      let published := t.publishConnection info.pid u.registry.nextHandle one.nextHandle
      ⟨.ok published.tokens,
        u.withProcess info
          (joined s u info u.registry.nextHandle one.nextHandle published.tokens.process) two,
        published.transport, rights env u info (joining s info) ++ published.calls⟩ := by
  have hSeated : (seated s u info).pid = info.pid := rfl
  simp only [settle, spreadForeground_joining,
    Session.openPrimaries_withProcess_of_opened hNew hSeated hInput hOutput hOne hTwo]
  rw [Session.update_withProcess hNew]
  · rfl
  · rfl

end

/-! The whole attempt, by what its parts end in. -/

/-- A process that is connected already is refused before anything happens. -/
theorem run_of_known (hKnown : info.pid ∈ s.processes.pids) :
    run env defaults headless issued s t info = ⟨.error (.alreadyConnected info.pid), s, t, []⟩ := by
  have hJoin : s.processes.join (joining s info) = .error (.alreadyConnected info.pid) :=
    ProcessTable.join_of_mem hKnown
  simp only [joining] at hJoin
  simp only [run, hJoin]

theorem join_joining (hNew : info.pid ∉ s.processes.pids) :
    s.processes.join (joining s info) = .ok (s.processes.enter (joining s info)) :=
  ProcessTable.join_of_not_mem hNew

section

variable {calls told : List Call} {u v : Session} {t' : Loopback} {refusal : Refusal}

/-- If bring-up fails, the record that was entered is taken out again. -/
theorem run_of_notUp (hNew : info.pid ∉ s.processes.pids)
    (hUp : BringUp.run env defaults headless issued s info = ⟨.error refusal, u, calls⟩) :
    run env defaults headless issued s t info =
      ⟨.error refusal,
        { u with processes := s.processes.enter (joining s info) }.rollback info.pid, t,
        greeting env info ++ calls⟩ := by
  have hJoin := join_joining hNew
  simp only [joining] at hJoin
  simp only [run, hJoin, complete, BringUp.run_processes, hUp]
  rfl

/-- If settling fails, the connection is undone. -/
theorem run_of_refused (hNew : info.pid ∉ s.processes.pids)
    (hUp : BringUp.run env defaults headless issued s info = ⟨.ok (), u, calls⟩)
    (hSettle : settle env (announcements info).length
      { u with processes := s.processes.enter (joining s info) } t info =
        ⟨.error refusal, v, t', told⟩) :
    run env defaults headless issued s t info =
      ⟨.error refusal, v.rollback info.pid, t', greeting env info ++ calls ++ told⟩ := by
  have hJoin := join_joining hNew
  simp only [joining] at hJoin hSettle
  simp only [run, hJoin, complete, BringUp.run_processes, hUp, hSettle]
  rfl

/-- If settling succeeds, the attach does. -/
theorem run_of_settled {tokens : ConnectionTokens} (hNew : info.pid ∉ s.processes.pids)
    (hUp : BringUp.run env defaults headless issued s info = ⟨.ok (), u, calls⟩)
    (hSettle : settle env (announcements info).length
      { u with processes := s.processes.enter (joining s info) } t info =
        ⟨.ok tokens, v, t', told⟩) :
    run env defaults headless issued s t info =
      ⟨.ok tokens, v, t', greeting env info ++ calls ++ told⟩ := by
  have hJoin := join_joining hNew
  simp only [joining] at hJoin hSettle
  simp only [run, hJoin, complete, BringUp.run_processes, hUp, hSettle]
  rfl

end

section

variable {u : Session} {calls : List Call} (hNew : info.pid ∉ s.processes.pids)
  (hUp : BringUp.run env defaults headless issued s info = ⟨.ok (), u, calls⟩)
  (hProcesses : u.processes = s.processes) (hInput : u.input = some input)
  (hOutput : u.activeOutput = some output)
  (hOne : u.registry.openHandle input .readWrite .all = (.ok u.registry.nextHandle, one))
  (hTwo : one.openHandle output .readWrite .all = (.ok one.nextHandle, two))

include hNew hUp hProcesses hInput hOutput hOne hTwo

/-- With both handles open, the process gets through. -/
theorem run_of_opened :
    run env defaults headless issued s t info =
      let published := t.publishConnection info.pid u.registry.nextHandle one.nextHandle
      { result := .ok published.tokens
        session := u.withProcess info
          (joined s u info u.registry.nextHandle one.nextHandle published.tokens.process) two
        transport := published.transport
        calls := greeting env info ++ calls ++ (rights env u info (joining s info) ++ published.calls) } := by
  have hHere : info.pid ∉ u.processes.pids := hProcesses ▸ hNew
  rw [run_of_settled hNew hUp (hProcesses ▸ settle_of_opened hInput hOutput hHere hOne hTwo)]

/-- Both handles open: the attach is completed or undone. -/
theorem ends_of_opened :
    Ends env defaults headless issued s t info (run env defaults headless issued s t info) := by
  rw [run_of_opened hNew hUp hProcesses hInput hOutput hOne hTwo]
  exact .attached hNew hUp hInput hOutput hOne hTwo rfl

end

/-- Undoing a record that opened nothing takes the record out. -/
theorem rollback_joining {u : Session} (consistent : u.Consistent)
    (hNew : info.pid ∉ u.processes.pids) :
    { u with processes := u.processes.enter (joining s info) }.rollback info.pid = u :=
  consistent.rollback_enter hNew rfl

section

variable {u : Session} {refusal : Refusal} {calls : List Call} (hNew : info.pid ∉ s.processes.pids)
  (hUp : BringUp.run env defaults headless issued s info = ⟨.error refusal, u, calls⟩)
  (hProcesses : u.processes = s.processes) (consistent : u.Consistent)

include hNew hUp hProcesses consistent

theorem run_of_notUp_consistent :
    run env defaults headless issued s t info = ⟨.error refusal, u, t, greeting env info ++ calls⟩ := by
  have hHere : info.pid ∉ u.processes.pids := hProcesses ▸ hNew
  rw [run_of_notUp hNew hUp, ← hProcesses, rollback_joining consistent hHere]

/-- Bring-up failed: the session is as bring-up left it. -/
theorem ends_of_notUp :
    Ends env defaults headless issued s t info (run env defaults headless issued s t info) := by
  rw [run_of_notUp_consistent hNew hUp hProcesses consistent]
  exact .notUp hNew hUp

end

/-- Undoing an admission that opened nothing leaves nothing of it. -/
theorem rollback_inputRefused (hNew : info.pid ∉ s.processes.pids) :
    (s.withProcess info (seated s s info) s.registry).rollback info.pid = s.undone info s.registry :=
  Session.rollback_withProcess hNew rfl

/-- Undoing an admission that opened the input closes that handle. -/
theorem rollback_outputRefused (hNew : info.pid ∉ s.processes.pids) :
    (s.withProcess info { seated s s info with input := some s.registry.nextHandle } one).rollback
      info.pid = s.undone info (one.discardHandle s.registry.nextHandle) :=
  Session.rollback_withProcess hNew rfl

/-- A session that is up refuses a process only over the sharing of its endpoints. -/
theorem ends_of_initialized (consistent : s.Consistent) (hNew : info.pid ∉ s.processes.pids)
    (hInitialized : s.initialized = true) :
    Ends env defaults headless issued s t info (run env defaults headless issued s t info) := by
  have hUp : BringUp.run env defaults headless issued s info = ⟨.ok (), s, []⟩ :=
    BringUp.run_of_initialized hInitialized
  obtain ⟨event, input, output, buffer, window, hosts⟩ := consistent.up hInitialized
  obtain ⟨_, hObject⟩ := (hosts.pins_iff input (.input event)).2 (.inl ⟨rfl, rfl⟩)
  have hInput := hosts.input_eq
  have hOutput := hosts.activeOutput_eq
  obtain ⟨refusal, hOne⟩ | ⟨one, hOne⟩ := s.registry.openHandle_cases input .readWrite .all
  · rw [run_of_refused hNew hUp (settle_of_inputRefused hInput hOutput hOne),
      rollback_inputRefused hNew, List.append_nil]
    exact .inputRefused hNew hInitialized hInput hOne
  · obtain ⟨refusal, hTwo⟩ | ⟨two, hTwo⟩ := one.openHandle_cases output .readWrite .all
    · rw [run_of_refused hNew hUp (settle_of_outputRefused hInput hOutput hNew hOne hTwo),
        rollback_outputRefused hNew, List.append_nil]
      exact .outputRefused hNew hInitialized hInput hOutput hOne hTwo
        (consistent.sound.restores_openHandle hObject hOne (.inl rfl))
    · exact ends_of_opened hNew hUp rfl hInput hOutput hOne hTwo

/-- Every attach ends in one of the listed ways. -/
theorem ends_run (consistent : s.Consistent) :
    Ends env defaults headless issued s t info (run env defaults headless issued s t info) := by
  by_cases hNew : info.pid ∈ s.processes.pids
  · rw [run_of_known hNew]
    exact .known hNew
  · have hEnds : BringUp.Ends env defaults headless issued s info
        (BringUp.run env defaults headless issued s info) := BringUp.ends_run consistent.sound
    generalize hUp : BringUp.run env defaults headless issued s info = up at hEnds
    cases hEnds with
    | already hInitialized => exact ends_of_initialized consistent hNew hInitialized
    | noEvent hDown hEvent => exact ends_of_notUp hNew hUp rfl consistent
    | noWindow hDown hEvent hWindow =>
        exact ends_of_notUp hNew hUp rfl (consistent.eventOnly hDown _)
    | raised hDown hEvent hWindow =>
        -- The endpoints are new, so neither of the two handles can be refused.
        obtain ⟨input, output, one, two, hInput, hOutput, hOne, hTwo⟩ :=
          consistent.openHandle_raised _ _ _ _
        exact ends_of_opened hNew hUp rfl hInput hOutput hOne hTwo

theorem ends_of_run {o : Outcome} (consistent : s.Consistent)
    (h : run env defaults headless issued s t info = o) :
    Ends env defaults headless issued s t info o :=
  h ▸ ends_run consistent

/-- However an attach ends, the session is consistent. -/
theorem Ends.consistent {o : Outcome} (ends : Ends env defaults headless issued s t info o)
    (consistent : s.Consistent) : o.session.Consistent := by
  cases ends with
  | known => exact consistent
  | notUp hNew hUp => exact (BringUp.ends_of_run consistent.sound hUp).consistent consistent
  | inputRefused hNew => exact consistent.undone hNew consistent.continues
  | outputRefused hNew _ _ _ _ _ restores =>
      exact consistent.undone hNew (restores.continues consistent.sound consistent.held)
  | attached hNew hUp hInput hOutput hOne hTwo =>
      have ended := BringUp.ends_of_run consistent.sound hUp
      have raised := ended.consistent consistent
      refine raised.withProcess (raised.up (ended.initialized_of_ok rfl)) ?_ rfl ⟨rfl, rfl, rfl⟩
        ((raised.continues.openHandle hOne).openHandle hTwo)
      rwa [ended.processes_eq]

end ConsoleHost.Attach
