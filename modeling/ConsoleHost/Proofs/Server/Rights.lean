import ConsoleHost.Proofs.Server.Lifecycle
import ConsoleHost.Proofs.Server.Turnover
import ConsoleHost.Proofs.Session.Rights

/-! Foreground rights along a run, while the focus of the window changes as it likes. What the record of a process
says is what process control was told of it last, and it is told of changes only. -/

namespace ConsoleHost

open Call

namespace Handoff

variable {env : Environment} {serverHandle : Option RawHandle} {target : Clsid} {descriptor : Descriptor}

/-- A handoff attempt that fails tells nobody about rights. -/
theorem told_of_attempt_error {s session : Session} {failure : Error} {calls : List Call}
    (h : attempt env serverHandle target descriptor s = ⟨.error failure, session, calls⟩) : told calls = [] :=
  told_eq_nil fun call hMem => told?_of_not_serves (hosts_nothing_of_attempt_error h call hMem).1

/-- A handoff attempt does not change whether the foreground is granted. -/
theorem grantsForeground_of_attempt {s : Session} {result : Attempt}
    (h : attempt env serverHandle target descriptor s = result) :
    result.session.grantsForeground = s.grantsForeground := by
  rcases session_of_attempt h with hSame | hGiven
  · rw [hSame]
  · rw [hGiven]
    rfl

end Handoff

namespace Server

/-- The rights that process control is told of in a turn. Once the session is handed over, it is the handler that
speaks to process control. -/
def Turn.told (turn : Turn) : List Right :=
  match turn.completion with
  | some .handedOff => []
  | _ => Call.told turn.calls

/-- What a step does to foreground rights, with what process control is told of them. -/
inductive Tells (step : Step) (s s' : Session) : List Right → Prop where
  /-- Nobody joins, and everybody who is still there has the right there was. -/
  | nobody (hRecords : s'.processes.records.Sublist s.processes.records) : Tells step s s' []
  | connecting {request : ConnectMessage} {info : ConnectInfo} {told : List Right}
      (connects : step.ConnectsAs request info) (spreads : Session.Spreads info.pid s s' told) : Tells step s s' told

variable {env : Environment} {server : Server} {message : Message} {step : Step} {s s' : Session}

theorem Turn.told_eq_nil {turn : Turn} (h : Call.told turn.calls = []) : turn.told = [] := by
  rw [told]
  split
  · rfl
  · exact h

/-- A step that leaves the records alone tells nobody. -/
theorem tells_of_eq (h : s'.processes = s.processes) : Tells step s s' [] :=
  .nobody (h ▸ List.Sublist.refl _)

/-- Hosting a process, which hands nothing over. -/
theorem Hosts.spreads {issued : Nat} {info : ConnectInfo} {served : Served}
    (hosts : Hosts env server issued message info served) (consistent : server.session.Consistent) :
    Session.Spreads info.pid server.session served.server.session (told served.calls) := by
  have hReply (calls : List Call) (reply : Reply) (delivered : Bool) :
      told (calls ++ [.complete reply delivered]) = told calls := told_append .. |>.trans (List.append_nil _)
  cases hosts with
  | refused hAttach => exact (Attach.ends_of_run consistent hAttach).spreads consistent
  | delivered hAttach =>
      rw [hReply]
      exact (Attach.ends_of_run consistent hAttach).spreads consistent
  | undelivered hAttach =>
      rw [hReply]
      exact (Attach.ends_of_run consistent hAttach).spreads_undelivered consistent rfl

/-- While a connect is hosted here, what its calls tell is what the turn tells. -/
theorem Hosts.told_eq {issued : Nat} {info : ConnectInfo} {served : Served} {calls : List Call}
    (hosts : Hosts env server issued message info served) :
    Turn.told ⟨step, served.server, some served.completion, calls⟩ = Call.told calls := by
  cases hosts <;> rfl

/-- A connect tells the processes whose flags it changes. -/
theorem Connects.tells {request : ConnectMessage} {served : Served}
    (connects : Connects env server message request served) (consistent : server.session.Consistent)
    (hRequest : message.request = .connect request) :
    Tells (.dispatch env message) server.session served.server.session
      (Turn.told ⟨.dispatch env message, served.server, some served.completion, served.calls⟩) := by
  cases connects with
  | invalid => exact tells_of_eq rfl
  | @hosted info hInfo =>
      have hosted : Hosts env server.counted 0 message info _ := hosts_hostLocally
      rw [hosted.told_eq]
      exact .connecting ⟨env, message, rfl, hRequest, hInfo⟩ (hosted.spreads consistent)
  | handedOver _ _ hAttempt => exact tells_of_eq (Handoff.processes_of_attempt hAttempt)
  | @fellBack info target failure session calls _ hInfo hTarget hAttempt hServed =>
      subst hServed
      have hosted : Hosts env (server.declined target failure session) (Call.issued calls).length message info _ :=
        hosts_hostLocally
      have spreads := hosted.spreads (consistent_attempt consistent hTarget hAttempt)
      rw [hosted.told_eq, Call.told_append, Handoff.told_of_attempt_error hAttempt, List.nil_append]
      exact .connecting ⟨env, message, rfl, hRequest, hInfo⟩
        (spreads.of_processes (Handoff.processes_of_attempt hAttempt) (Handoff.grantsForeground_of_attempt hAttempt))

theorem told_create {request : CreateRequest} : Call.told (server.create message request).calls = [] := by
  simp only [create]
  split
  · rfl
  · rfl

/-- A message tells nobody, unless it is a connect. -/
theorem tells_dispatch (hStandard : env.Standard) (consistent : server.session.Consistent) :
    Tells (.dispatch env message) server.session (server.dispatch env message).server.session
      (server.turn (.dispatch env message)).told := by
  simp only [turn]
  rw [dispatch]
  split
  · next request _ =>
      obtain ⟨registry, hSession, -⟩ := continues_create consistent request
      rw [Turn.told_eq_nil told_create, hSession]
      exact tells_of_eq rfl
  · simp only [close]
    split
    · exact tells_of_eq rfl
    · exact tells_of_eq rfl
  · next hRequest => exact connects_connect.tells consistent hRequest
  · simp only [disconnect]
    split
    · exact tells_of_eq rfl
    · next record _ =>
        rw [Turn.told_eq_nil (env.told_accessibilityCalls ..)]
        simp only [hStandard.depart_eq, Session.snd_depart]
        exact .nobody (server.session.records_rollback_sublist record.pid)
  · simp only [api]
    split
    · exact tells_of_eq rfl
    · simp only [hStandard.session_answer]
      rw [Turn.told_eq_nil rfl]
      exact tells_of_eq rfl

/-- Every step tells as its changes to the flags ask. -/
theorem tells_turn (hStandard : step.Standard) (consistent : server.session.Consistent) :
    Tells step server.session (server.turn step).server.session (server.turn step).told := by
  cases step with
  | dispatch env message => exact tells_dispatch hStandard consistent
  | shutdown =>
      have hRecords : (server.turn .shutdown).server.session.processes.records = [] :=
        Session.records_foldl_rollback (s := server.session) rfl
      have hTold : (server.turn .shutdown).told = [] := by
        apply Turn.told_eq_nil
        simp only [turn, shutdown]
        cases server.session.wakeEvent <;> rfl
      rw [hTold]
      apply Tells.nobody
      rw [hRecords]
      exact List.nil_sublist _
  | failNext count => exact tells_of_eq rfl
  | focus on => exact tells_of_eq rfl

/-- The last of these rights that a process was told to have. -/
def toldLast? (pid : UInt32) (told : List Right) : Option Right := (told.filter (·.pid = pid)).getLast?

/-- What a process was told last is what it was told last in the second list, or else in the first. -/
theorem toldLast?_append (pid : UInt32) (before after : List Right) :
    toldLast? pid (before ++ after) = (toldLast? pid after).or (toldLast? pid before) := by
  rw [toldLast?, List.filter_append, List.getLast?_append, toldLast?, toldLast?]

theorem toldLast?_forAll (pid : UInt32) (on : Bool) (pids : List UInt32) :
    toldLast? pid (Right.forAll on pids) = if pid ∈ pids then some ⟨pid, on⟩ else none := by
  have hFilter : (Right.forAll on pids).filter (·.pid = pid) = Right.forAll on (pids.filter (· = pid)) :=
    List.filter_map
  rw [toldLast?, hFilter, List.filter_eq, Right.forAll, List.map_replicate, List.getLast?_replicate]
  simp only [List.count_eq_zero, ite_not]

/-- The right that process control was told last in these turns that the process has. -/
def lastTold (pid : UInt32) (turns : List Turn) : Bool :=
  (toldLast? pid (turns.flatMap Turn.told)).elim false Right.on

/-- With one more turn, what a process was told last is what the turn tells it, or what it was
told before. -/
theorem lastTold_append (pid : UInt32) (turns : List Turn) (turn : Turn) :
    lastTold pid (turns ++ [turn]) = (toldLast? pid turn.told).elim (lastTold pid turns) Right.on := by
  have hTold : (turns ++ [turn]).flatMap Turn.told = turns.flatMap Turn.told ++ turn.told := by simp
  rw [lastTold, hTold, toldLast?_append]
  cases toldLast? pid turn.told with
  | none => rfl
  | some right => rfl

/-- The process has been connected in all these turns, and was not before. -/
structure ConnectedSince (before : Server) (turns : List Turn) (p : ProcessRecord) : Prop where
  pid_not_mem : p.pid ∉ before.session.processes.pids
  stays : ∀ turn ∈ turns, ∃ q ∈ turn.server.session.processes.records, q.pid = p.pid ∧ q.token = p.token

/-- The record says what process control was told last since the process connected. -/
def RecordsTold (first : Server) (turns : List Turn) (p : ProcessRecord) : Prop :=
  ∃ before prior turn later, turns = prior ++ turn :: later ∧ Run first prior before ∧
    ConnectedSince before (turn :: later) p ∧ p.foreground = lastTold p.pid (turn :: later)

section

variable {first : Server} {turns : List Turn} {turn : Turn} {p q : ProcessRecord}

/-- Another turn in which the process stays connected. -/
theorem RecordsTold.further (recorded : RecordsTold first turns q) (hMem : p ∈ turn.server.session.processes.records)
    (hPid : q.pid = p.pid) (hToken : q.token = p.token)
    (hForeground : p.foreground = (toldLast? p.pid turn.told).elim q.foreground Right.on) :
    RecordsTold first (turns ++ [turn]) p := by
  obtain ⟨before, prior, joined, later, rfl, run, since, hLast⟩ := recorded
  refine ⟨before, prior, joined, later ++ [turn], by simp, run, ⟨hPid ▸ since.pid_not_mem, ?_⟩, ?_⟩
  · rw [← List.cons_append, List.forall_mem_append]
    exact ⟨hPid ▸ hToken ▸ since.stays, List.forall_mem_singleton.2 ⟨p, hMem, rfl, rfl⟩⟩
  · rw [← List.cons_append, lastTold_append, ← hPid, ← hLast, hPid, hForeground]

/-- Rights are spread, and this process was connected before. -/
theorem RecordsTold.spread {pid : UInt32} {on : Bool} (recorded : RecordsTold first turns q)
    (hMem : { q with foreground := on } ∈ turn.server.session.processes.records)
    (hTold : turn.told = Right.forAll on (s.processes.due pid on)) (hDistinct : s.processes.pids.Nodup)
    (hNew : pid ∉ s.processes.pids) (hOld : q ∈ s.processes.records) :
    RecordsTold first (turns ++ [turn]) { q with foreground := on } := by
  apply recorded.further hMem rfl rfl
  rw [hTold, toldLast?_forAll]
  have hDue : q.pid ∈ s.processes.due pid on ↔ q.foreground = !on :=
    ProcessTable.mem_due_iff_of_mem hDistinct hNew hOld
  split
  · rfl
  · next hNotDue =>
      have hSame : q.foreground = on := by simpa using mt hDue.2 hNotDue
      exact hSame.symm

/-- Rights are spread because this process joins. -/
theorem recordsTold_joining {pid : UInt32} {on : Bool} (run : Run first turns server)
    (hMem : p ∈ turn.server.session.processes.records)
    (hTold : turn.told = Right.forAll on (server.session.processes.due pid on))
    (hNew : pid ∉ server.session.processes.pids) (hPid : p.pid = pid) (hForeground : p.foreground = on) :
    RecordsTold first (turns ++ [turn]) p := by
  subst hPid
  refine ⟨server, turns, turn, [], rfl, run, ⟨hNew, List.forall_mem_singleton.2 ⟨p, hMem, rfl, rfl⟩⟩, ?_⟩
  have hDue : p.pid ∈ server.session.processes.due p.pid on ↔ on = true := ProcessTable.mem_due_self_iff hNew
  have hLast : lastTold p.pid [turn] = (toldLast? p.pid turn.told).elim false Right.on := lastTold_append _ [] _
  rw [hLast, hTold, toldLast?_forAll, hForeground]
  split
  · rfl
  · next hNotDue => simpa using mt hDue.2 hNotDue

/-- One more step keeps every flag in step with what its process was told last. -/
theorem recordsTold_tells (run : Run first turns server) (hDistinct : server.session.processes.pids.Nodup)
    (hRecorded : ∀ q ∈ server.session.processes.records, RecordsTold first turns q)
    (tells : Tells step server.session turn.server.session turn.told)
    (hMem : p ∈ turn.server.session.processes.records) : RecordsTold first (turns ++ [turn]) p := by
  have hStays (hOld : p ∈ server.session.processes.records) (hTold : turn.told = []) :
      RecordsTold first (turns ++ [turn]) p := (hRecorded p hOld).further hMem rfl rfl (by rw [hTold]; rfl)
  generalize hTold : turn.told = told at tells
  cases tells with
  | nobody hRecords => exact hStays (hRecords.subset hMem) hTold
  | connecting _ spreads =>
      cases spreads with
      | kept hRecords => exact hStays (hRecords ▸ hMem) hTold
      | spread hNew hNewcomer hRecords =>
          rcases List.mem_append.1 (hRecords ▸ hMem) with hOld | hJoining
          · obtain ⟨q, hQ, rfl⟩ := List.mem_map.1 hOld
            exact (hRecorded q hQ).spread hMem hTold hDistinct hNew hQ
          · obtain ⟨hPid, hForeground⟩ := hNewcomer p hJoining
            exact recordsTold_joining run hMem hTold hNew hPid hForeground

/-- Over any run, every flag is what its process was told last since its record was made. -/
theorem Run.recordsTold (run : Run first turns server) (started : Started first) :
    ∀ p ∈ server.session.processes.records, RecordsTold first turns p := by
  induction run with
  | idle =>
      obtain ⟨options, capacity, serverHandle, event, rfl⟩ := started.eq_fresh
      exact List.forall_mem_nil _
  | step prior step hStandard ih =>
      have consistent := prior.consistent started.consistent
      intro p hMem
      exact recordsTold_tells prior consistent.pids_nodup ih (tells_turn hStandard consistent) hMem

end

/-- Process control is told of the opposite of the right there was, of nobody twice, and in the order in which the
processes connected, the new one last. -/
structure TellsChanges (server : Server) (turn : Turn) (info : ConnectInfo) : Prop where
  opposite : ∀ right ∈ turn.told,
    ∃ p ∈ server.session.processes.records ++ [Attach.joining server.session info],
      p.pid = right.pid ∧ p.foreground = !right.on
  nodup : (turn.told.map Right.pid).Nodup
  inOrder : (turn.told.map Right.pid).Sublist (server.session.processes.pids ++ [info.pid])

theorem tellsChanges_of_told_eq_nil {turn : Turn} {info : ConnectInfo} (h : turn.told = []) :
    TellsChanges server turn info := by
  refine ⟨?_, ?_, ?_⟩
  · rw [h]
    exact List.forall_mem_nil _
  · rw [h]
    exact List.nodup_nil
  · rw [h]
    exact List.nil_sublist _

/-- A step is a connect of one client at most. -/
theorem Step.ConnectsAs.info_eq {request other : ConnectMessage} {info info' : ConnectInfo}
    (connects : step.ConnectsAs request info) (again : step.ConnectsAs other info') : info' = info := by
  obtain ⟨env, message, rfl, hRequest, hInfo⟩ := connects
  obtain ⟨_, _, hStep, hAgain, hOther⟩ := again
  cases hStep
  cases hRequest.symm.trans hAgain
  cases hInfo.symm.trans hOther
  rfl

/-- Only a connect tells anybody. -/
theorem Tells.connects {told : List Right} (tells : Tells step s s' told) (h : told ≠ []) :
    ∃ request info, step.ConnectsAs request info := by
  cases tells with
  | nobody => exact absurd rfl h
  | connecting connects => exact ⟨_, _, connects⟩

/-- A connect tells of changes only, each process at most once. -/
theorem Tells.changes {turn : Turn} {request : ConnectMessage} {info : ConnectInfo}
    (tells : Tells step server.session s' turn.told) (hDistinct : server.session.processes.pids.Nodup)
    (connects : step.ConnectsAs request info) : TellsChanges server turn info := by
  generalize hTold : turn.told = told at tells
  cases tells with
  | nobody => exact tellsChanges_of_told_eq_nil hTold
  | connecting again spreads =>
      obtain rfl := connects.info_eq again
      subst hTold
      exact ⟨fun _ => spreads.opposite rfl rfl, spreads.nodup hDistinct, spreads.sublist⟩

/-- Once a process has got through, all have the right that the session grants. -/
theorem foreground_of_delivered {pid : UInt32} {token : Nat} {p : ProcessRecord} (hStandard : step.Standard)
    (consistent : server.session.Consistent)
    (hConnection : (server.turn step).connection? = some ⟨pid, token, true⟩)
    (h : p ∈ (server.turn step).server.session.processes.records) :
    p.foreground = server.session.grantsForeground := by
  have turnover := turnover_turn hStandard consistent
  rw [hConnection] at turnover
  cases turnover with
  | @joined _ info record _ _ gains =>
      have hJoined : info.pid ∈ (server.turn step).server.session.processes.pids := by
        rw [← ProcessTable.pids_members, gains.members_eq, ← gains.pid_eq]
        exact List.mem_map_of_mem (List.mem_append_right _ (List.mem_singleton_self record))
      have hGrown : (server.turn step).server.session.processes.pids ≠ server.session.processes.pids :=
        fun hSame => gains.pid_not_mem (hSame ▸ hJoined)
      have tells := tells_turn hStandard consistent
      generalize (server.turn step).told = told at tells
      cases tells with
      | nobody hRecords => exact absurd ((hRecords.map ProcessRecord.pid).subset hJoined) gains.pid_not_mem
      | connecting _ spreads => exact spreads.foreground_of_mem hGrown h

/-- Along any run, and however the focus changes, the record of every connected process says what process control was
told last of its right since it connected, or that it has none if it was not told of one. Process control is told of
rights only while a process connects: each time the opposite of the right there was, of nobody twice, and in the
order in which the processes connected. And once a process has got through, all have the right that the session
grants then. -/
theorem foreground_mirrors_control {first last : Server} {turns : List Turn} (started : Started first)
    (run : Run first turns last) :
    (∀ p ∈ last.session.processes.records, RecordsTold first turns p) ∧
      ∀ step : Step, step.Standard →
        ((last.turn step).told ≠ [] → ∃ request info, step.ConnectsAs request info) ∧
        (∀ request info, step.ConnectsAs request info → TellsChanges last (last.turn step) info) ∧
        ∀ pid token, (last.turn step).connection? = some ⟨pid, token, true⟩ →
          ∀ p ∈ (last.turn step).server.session.processes.records, p.foreground = last.session.grantsForeground := by
  refine ⟨run.recordsTold started, fun step hStandard => ?_⟩
  have consistent := run.consistent started.consistent
  have tells := tells_turn hStandard consistent
  exact ⟨tells.connects, fun _ _ => tells.changes consistent.pids_nodup,
    fun _ _ hConnection _ => foreground_of_delivered hStandard consistent hConnection⟩

/-- Rights go back and forth with the focus. One process is turned away after the others were told, and another one
reconnects. -/
def wavering : List Step :=
  [.dispatch quiet (connecting 7), .focus true, .dispatch quiet (connecting 9), .failNext 1, .focus false,
    .dispatch quiet (connecting 11), .dispatch quiet (disconnecting 0x100000001), .focus true,
    .dispatch quiet (connecting 7)]

theorem foreground_mirrors_control_wavering :
    (begun.turns wavering).map Turn.told =
        [[], [], [⟨7, true⟩, ⟨9, true⟩], [], [], [⟨7, false⟩, ⟨9, false⟩], [], [], [⟨9, true⟩, ⟨7, true⟩]] ∧
      (begun.follow wavering).session.processes.pids = [9, 7] ∧
      ∀ p ∈ (begun.follow wavering).session.processes.records, RecordsTold begun (begun.turns wavering) p := by
  have hStandard : ∀ step ∈ wavering, step.Standard := standard_quiet (by simp [wavering])
  have recorded := foreground_mirrors_control started_begun (Run.idle.follow hStandard)
  exact ⟨by decide, by decide, recorded.1⟩

end Server

end ConsoleHost
