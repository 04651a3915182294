import ConsoleHost.Proofs.Session.Aborted
import ConsoleHost.Proofs.Session.Lending
import ConsoleHost.Proofs.Session.Members

/-! Who comes and goes, with the history buffers that come and go with them. A process that attaches is one member
more and asks for one buffer. A process that does not get through is none, and any buffer it asked for is given
back. -/

namespace ConsoleHost

namespace Session

/-- Nobody has come or gone, and the buffers that were lent are lent. -/
structure Stays (s s' : Session) : Prop where
  members_eq : s'.processes.members = s.processes.members
  restored : s.histories.Restored s.processes.pids s'.histories

/-- One process more is a member, with this record, and has asked for a history buffer. The session is up, and the
process is its root if it was not up before. -/
structure Gains (s : Session) (info : ConnectInfo) (record : ProcessRecord) (s' : Session) : Prop where
  pid_not_mem : info.pid ∉ s.processes.pids
  pid_eq : record.pid = info.pid
  root_eq : record.root = !s.initialized
  members_eq : s'.processes.members = s.processes.members.enter record
  histories_eq : s'.histories = s.histories.request info.appName info.pid
  initialized_eq : s'.initialized = true

/-- One process has been removed, and its buffer given back. -/
structure Loses (s : Session) (pid : UInt32) (s' : Session) : Prop where
  members_eq : s'.processes.members = s.processes.members.erase pid
  histories_eq : s'.histories = s.histories.giveBack pid
  initialized_eq : s'.initialized = s.initialized

variable {s s' : Session} {info : ConnectInfo} {pid : UInt32}

/-- Nobody comes or goes as long as the records and the buffers are the same. -/
theorem stays_of_eq (hProcesses : s'.processes = s.processes) (hHistories : s'.histories = s.histories) :
    s.Stays s' :=
  ⟨congrArg ProcessTable.members hProcesses, hHistories ▸ .untouched⟩

/-- Nobody comes or goes in an admission that is undone. -/
theorem stays_undone (hNew : info.pid ∉ s.processes.pids) (registry : Registry) :
    s.Stays (s.undone info registry) :=
  ⟨ProcessTable.members_setForeground _, .returned hNew⟩

/-- Undoing a connection gives its history buffer back. -/
theorem histories_rollback (s : Session) (pid : UInt32) :
    (s.rollback pid).histories = s.histories.giveBack pid := by
  cases hFind : s.processes.find? pid with
  | none => rw [rollback_of_not_mem (ProcessTable.find?_eq_none_iff.1 hFind), giveBackHistory]
  | some record => rw [rollback_of_find? hFind]

theorem initialized_rollback (s : Session) (pid : UInt32) : (s.rollback pid).initialized = s.initialized := by
  cases hFind : s.processes.find? pid with
  | none => rw [rollback_of_not_mem (ProcessTable.find?_eq_none_iff.1 hFind), giveBackHistory]
  | some record => rw [rollback_of_find? hFind]

/-- Undoing a connection takes out one process and its buffer. -/
theorem loses_rollback (s : Session) (pid : UInt32) : s.Loses pid (s.rollback pid) :=
  ⟨s.members_rollback pid, s.histories_rollback pid, s.initialized_rollback pid⟩

theorem histories_foldl_rollback (pids : List UInt32) (s : Session) :
    (pids.foldl rollback s).histories = pids.foldl HistoryPool.giveBack s.histories := by
  induction pids generalizing s with
  | nil => rfl
  | cons pid rest ih => rw [List.foldl_cons, ih, histories_rollback, List.foldl_cons]

end Session

namespace Attach

variable {env : Environment} {defaults : SessionDefaults} {headless : Bool} {issued : Nat} {s : Session}
  {t : Loopback} {info : ConnectInfo} {o : Outcome}

/-- Nobody comes or goes in an attach that fails. -/
theorem Ends.stays_of_error {refusal : Refusal} (ends : Ends env defaults headless issued s t info o)
    (consistent : s.Consistent) (h : o.result = .error refusal) : s.Stays o.session := by
  cases ends with
  | known => exact Session.stays_of_eq rfl rfl
  | notUp _ hUp =>
      have ended := BringUp.ends_of_run consistent.sound hUp
      exact Session.stays_of_eq ended.processes_eq ended.histories_eq
  | inputRefused hNew => exact Session.stays_undone hNew _
  | outputRefused hNew => exact Session.stays_undone hNew _
  | attached => cases h

/-- An attach that succeeds adds one process and asks for its buffer. -/
theorem Ends.gains_of_ok {tokens : ConnectionTokens} (ends : Ends env defaults headless issued s t info o)
    (consistent : s.Consistent) (h : o.result = .ok tokens) :
    ∃ record, record.token = some tokens.process ∧ s.Gains info record o.session := by
  cases ends with
  | known => cases h
  | notUp => cases h
  | inputRefused => cases h
  | outputRefused => cases h
  | @attached u _ _ _ one two published hNew hUp =>
      cases h
      have ended := BringUp.ends_of_run consistent.sound hUp
      refine ⟨{ joined s u info u.registry.nextHandle one.nextHandle published.tokens.process with
        foreground := false }, rfl, hNew, rfl, rfl, ?_, ?_, ended.initialized_of_ok rfl⟩
      · rw [Session.withProcess, ProcessTable.members_enter, ProcessTable.members_setForeground,
          ended.processes_eq]
      · rw [Session.withProcess, ended.histories_eq]

/-- Attaching a process gets as far as to ask for a history buffer, and this is the session then: the process has
joined it, and it is up. -/
def AsksIn (env : Environment) (defaults : SessionDefaults) (headless : Bool) (issued : Nat) (s : Session)
    (info : ConnectInfo) (asking : Session) : Prop :=
  ∃ processes calls, s.processes.join (joining s info) = .ok processes ∧
    BringUp.run env defaults headless issued { s with processes := processes } info = ⟨.ok (), asking, calls⟩

theorem AsksIn.pid_not_mem {asking : Session} (asks : AsksIn env defaults headless issued s info asking) :
    info.pid ∉ s.processes.pids := by
  obtain ⟨processes, calls, hJoin, -⟩ := asks
  intro hKnown
  cases hJoin.symm.trans (ProcessTable.join_of_mem hKnown)

/-- The pool that a new process asks is the one of the session it finds. -/
theorem AsksIn.histories_eq {asking : Session} (asks : AsksIn env defaults headless issued s info asking)
    (sound : s.registry.Sound) : asking.histories = s.histories := by
  obtain ⟨processes, calls, -, hUp⟩ := asks
  have ended : BringUp.Ends env defaults headless issued { s with processes := processes } info _ :=
    BringUp.ends_of_run sound hUp
  exact ended.histories_eq

/-- Who gets through has asked for a buffer. -/
theorem Ends.asksIn_of_ok {tokens : ConnectionTokens} (ends : Ends env defaults headless issued s t info o)
    (h : o.result = .ok tokens) :
    ∃ asking, AsksIn env defaults headless issued s info asking ∧
      o.session.histories = (asking.requestHistory info.appName info.pid).histories := by
  cases ends with
  | known => cases h
  | notUp => cases h
  | inputRefused => cases h
  | outputRefused => cases h
  | @attached u calls _ _ _ _ _ hNew hUp =>
      refine ⟨{ u with processes := s.processes.enter (joining s info) }, ⟨_, calls, join_joining hNew, ?_⟩, rfl⟩
      rw [BringUp.run_processes, hUp]

/-- If the reply is lost nobody has come, and the session stays up. -/
theorem Ends.stays_undelivered {tokens : ConnectionTokens}
    (ends : Ends env defaults headless issued s t info o) (consistent : s.Consistent)
    (h : o.result = .ok tokens) :
    s.Stays (o.session.rollback info.pid) ∧ (o.session.rollback info.pid).initialized = true := by
  obtain ⟨record, -, gains⟩ := ends.gains_of_ok consistent h
  have loses := o.session.loses_rollback info.pid
  refine ⟨⟨?_, ?_⟩, loses.initialized_eq.trans gains.initialized_eq⟩
  · have hMembers := gains.pid_not_mem
    rw [← ProcessTable.pids_members, ← gains.pid_eq] at hMembers
    rw [loses.members_eq, gains.members_eq, ← gains.pid_eq, ProcessTable.erase_enter hMembers]
  · rw [loses.histories_eq, gains.histories_eq]
    exact .returned gains.pid_not_mem

end Attach

end ConsoleHost
