import ConsoleHost.Proofs.Hosting
import ConsoleHost.Proofs.Session.Attach

/-! What process control is told of foreground rights while a process connects. Everybody whose right is not what the
session grants is told once, in the order in which they connected and the new process last, and the records are
changed accordingly. If the new process does not get through after that, the rights of the others stay as they were
told. -/

namespace ConsoleHost

/-- The foreground right of a process, as process control is told of it. -/
structure Right where
  pid : UInt32
  on : Bool
  deriving DecidableEq

def Right.forAll (on : Bool) (pids : List UInt32) : List Right := pids.map (⟨·, on⟩)

theorem Right.pids_forAll (on : Bool) (pids : List UInt32) : (forAll on pids).map Right.pid = pids := by
  rw [forAll, List.map_map]
  exact List.map_id _

def ControlRequest.right? : ControlRequest → Option Right
  | setForeground pid on => some ⟨pid, on⟩
  | notifyApp _ | endTask .. => none

namespace Call

def told? : Call → Option Right
  | control request _ => request.right?
  | _ => none

/-- The rights that process control is told of, whether or not it takes notice. -/
def told (calls : List Call) : List Right := calls.filterMap told?

@[simp] theorem told_append (first second : List Call) : told (first ++ second) = told first ++ told second :=
  List.filterMap_append

theorem told_eq_nil {calls : List Call} (h : ∀ call ∈ calls, call.told? = none) : told calls = [] :=
  List.filterMap_eq_nil_iff.2 h

/-- Calls that serve nobody tell nobody about foreground rights. -/
theorem told?_of_not_serves {call : Call} (h : call.serves = false) : call.told? = none := by
  cases call with
  | control => cases h
  | _ => rfl

end Call

open Call

/-- Control calls tell the rights that the requests set. -/
theorem Environment.told_controlCalls (env : Environment) (before : Nat) (requests : List ControlRequest) :
    told (env.controlCalls before requests) = requests.filterMap ControlRequest.right? := by
  induction requests generalizing before with
  | nil => rfl
  | cons request rest ih =>
      have hRest := ih (before + 1)
      rw [env.controlCalls_cons, List.filterMap_cons, ← hRest]
      rfl

theorem Environment.told_accessibilityCalls (env : Environment) (event : ApplicationEvent) (pid : UInt32) :
    told (env.accessibilityCalls event pid) = [] := by
  apply told_eq_nil
  intro call hMem
  obtain ⟨_, rfl⟩ := env.mem_accessibilityCalls hMem
  rfl

namespace ProcessTable

variable {t : ProcessTable} {record : ProcessRecord} {pid : UInt32} {on : Bool}

/-- The processes whose right changes if all get this one and a process without it joins them. -/
def due (t : ProcessTable) (pid : UInt32) (on : Bool) : List UInt32 :=
  t.differingFrom on ++ if on then [pid] else []

/-- The records that differ once a process has entered are the ones that are due. -/
theorem differingFrom_enter (hNone : record.foreground = false) :
    (t.enter record).differingFrom on = t.due record.pid on := by
  cases on with
  | true => simp [differingFrom, enter, due, hNone]
  | false => simp [differingFrom, enter, due, hNone]

/-- A record differs if its foreground flag is not what the rights grant. -/
theorem mem_differingFrom_iff :
    pid ∈ t.differingFrom on ↔ ∃ p ∈ t.records, p.pid = pid ∧ p.foreground = !on := by
  simp only [differingFrom, List.mem_map, List.mem_filter, decide_eq_true_eq, ne_eq]
  constructor
  · rintro ⟨p, ⟨hMem, hDiffers⟩, rfl⟩
    exact ⟨p, hMem, rfl, Bool.eq_not_of_ne hDiffers⟩
  · rintro ⟨p, hMem, rfl, hOther⟩
    exact ⟨p, ⟨hMem, by simp [hOther]⟩, rfl⟩

theorem mem_pids_of_mem_differingFrom (h : pid ∈ t.differingFrom on) : pid ∈ t.pids := by
  obtain ⟨p, hMem, rfl, -⟩ := mem_differingFrom_iff.1 h
  exact List.mem_map_of_mem hMem

/-- A process that is new is due a call only if the rights grant the foreground. -/
theorem mem_due_self_iff (hNew : pid ∉ t.pids) : pid ∈ t.due pid on ↔ on = true := by
  have hNot : pid ∉ t.differingFrom on := fun hMem => hNew (mem_pids_of_mem_differingFrom hMem)
  cases on with
  | true => simp [due]
  | false => simpa [due] using hNot

/-- A process that was there is due a call if its flag differs. -/
theorem mem_due_iff_of_mem {p : ProcessRecord} (hDistinct : t.pids.Nodup) (hNew : pid ∉ t.pids)
    (hMem : p ∈ t.records) : p.pid ∈ t.due pid on ↔ p.foreground = !on := by
  have hOther : p.pid ∉ if on then [pid] else [] := by
    intro hJoining
    have hSame : p.pid = pid := by
      cases on with
      | true => exact List.mem_singleton.1 hJoining
      | false => cases hJoining
    exact hNew (hSame ▸ List.mem_map_of_mem hMem)
  rw [due, List.mem_append, or_iff_left hOther, mem_differingFrom_iff]
  constructor
  · rintro ⟨q, hQ, hSame, hForeground⟩
    rwa [← List.inj_on_of_nodup_map hDistinct hQ hMem hSame]
  · intro hForeground
    exact ⟨p, hMem, rfl, hForeground⟩

/-- Those who are due stand in the order in which they connected. -/
theorem due_sublist : (t.due pid on).Sublist (t.pids ++ [pid]) := by
  apply List.Sublist.append
  · exact List.filter_sublist.map _
  · cases on with
    | true => exact List.Sublist.refl _
    | false => exact List.nil_sublist _

end ProcessTable

namespace Session

/-- What connecting a process does to foreground rights, with what process control is told of them. -/
inductive Spreads (pid : UInt32) (s s' : Session) : List Right → Prop where
  /-- The process does not get as far as to join. -/
  | kept (hRecords : s'.processes.records = s.processes.records) : Spreads pid s s' []
  /-- The process joins, and all get the right that the session grants. Then it may be turned away again. -/
  | spread {newcomer : List ProcessRecord} (hNew : pid ∉ s.processes.pids)
      (hNewcomer : ∀ p ∈ newcomer, p.pid = pid ∧ p.foreground = s.grantsForeground)
      (hRecords : s'.processes.records = (s.processes.setForeground s.grantsForeground).records ++ newcomer) :
      Spreads pid s s' (Right.forAll s.grantsForeground (s.processes.due pid s.grantsForeground))

variable {s s' : Session} {pid : UInt32}

/-- Undoing a connection takes records away and keeps the order of the rest. -/
theorem records_rollback_sublist (s : Session) (pid : UInt32) :
    (s.rollback pid).processes.records.Sublist s.processes.records := by
  cases hFind : s.processes.find? pid with
  | none =>
      rw [rollback_of_not_mem (ProcessTable.find?_eq_none_iff.1 hFind)]
      exact List.Sublist.refl _
  | some record =>
      rw [rollback_of_find? hFind]
      exact List.eraseP_sublist

/-- A step that leaves the records alone tells nobody. -/
theorem spreads_of_eq (h : s'.processes = s.processes) : Spreads pid s s' [] :=
  .kept (congrArg ProcessTable.records h)

theorem Spreads.of_processes {u : Session} {told : List Right} (spreads : Spreads pid u s' told)
    (hProcesses : u.processes = s.processes) (hGrants : u.grantsForeground = s.grantsForeground) :
    Spreads pid s s' told := by
  cases spreads with
  | kept hRecords => exact .kept (hProcesses ▸ hRecords)
  | spread hNew hNewcomer hRecords =>
      rw [hProcesses, hGrants] at *
      exact .spread hNew hNewcomer hRecords

/-- What process control is told is the opposite of the right there was, and a process joins without it. -/
theorem Spreads.opposite {told : List Right} {right : Right} {record : ProcessRecord} (spreads : Spreads pid s s' told)
    (hPid : record.pid = pid) (hNone : record.foreground = false) (h : right ∈ told) :
    ∃ p ∈ s.processes.records ++ [record], p.pid = right.pid ∧ p.foreground = !right.on := by
  cases spreads with
  | kept => cases h
  | spread =>
      obtain ⟨told, hDue, rfl⟩ := List.mem_map.1 h
      rcases List.mem_append.1 hDue with hOld | hJoining
      · obtain ⟨p, hMem, hSame, hOther⟩ := ProcessTable.mem_differingFrom_iff.1 hOld
        exact ⟨p, List.mem_append_left _ hMem, hSame, hOther⟩
      · refine ⟨record, List.mem_append_right _ (List.mem_singleton_self _), ?_⟩
        cases hGrants : s.grantsForeground with
        | true =>
            rw [hGrants] at hJoining
            exact ⟨hPid.trans (List.mem_singleton.1 hJoining).symm, hNone⟩
        | false =>
            rw [hGrants] at hJoining
            cases hJoining

/-- Process control is told in the order in which the processes connected. -/
theorem Spreads.sublist {told : List Right} (spreads : Spreads pid s s' told) :
    (told.map Right.pid).Sublist (s.processes.pids ++ [pid]) := by
  cases spreads with
  | kept => exact List.nil_sublist _
  | spread =>
      rw [Right.pids_forAll]
      exact ProcessTable.due_sublist

/-- No process is told twice at one connect. -/
theorem Spreads.nodup {told : List Right} (spreads : Spreads pid s s' told) (hDistinct : s.processes.pids.Nodup) :
    (told.map Right.pid).Nodup := by
  cases spreads with
  | kept => exact List.nodup_nil
  | spread hNew hNewcomer hRecords =>
      have hAll : (s.processes.pids ++ [pid]).Nodup :=
        List.Nodup.append hDistinct (List.nodup_singleton pid) (List.disjoint_singleton.2 hNew)
      exact hAll.sublist (Spreads.spread hNew hNewcomer hRecords).sublist

/-- After a connect that added a record, every flag is what the rights grant. -/
theorem Spreads.foreground_of_mem {told : List Right} {p : ProcessRecord} (spreads : Spreads pid s s' told)
    (hJoined : s'.processes.pids ≠ s.processes.pids) (h : p ∈ s'.processes.records) :
    p.foreground = s.grantsForeground := by
  cases spreads with
  | kept hRecords => exact absurd (congrArg (List.map ProcessRecord.pid) hRecords) hJoined
  | spread hNew hNewcomer hRecords =>
      rw [hRecords] at h
      rcases List.mem_append.1 h with hOld | hJoining
      · obtain ⟨q, -, rfl⟩ := List.mem_map.1 hOld
        rfl
      · exact (hNewcomer p hJoining).2

section

variable {u : Session} {info : ConnectInfo} {record : ProcessRecord} {registry : Registry}
  (hNew : info.pid ∉ u.processes.pids) (hPid : record.pid = info.pid)

include hNew hPid

/-- An admission brings every flag up to date and tells the processes that were due. -/
theorem spreads_withProcess (hForeground : record.foreground = u.grantsForeground) :
    Spreads info.pid u (u.withProcess info record registry)
      (Right.forAll u.grantsForeground (u.processes.due info.pid u.grantsForeground)) :=
  .spread hNew (List.forall_mem_singleton.2 ⟨hPid, hForeground⟩) rfl

/-- A connection that is undone has still told the processes that were due. -/
theorem spreads_turnedAway :
    Spreads info.pid u ((u.withProcess info record registry).rollback info.pid)
      (Right.forAll u.grantsForeground (u.processes.due info.pid u.grantsForeground)) := by
  rw [rollback_withProcess hNew hPid]
  exact .spread hNew (List.forall_mem_nil _) (List.append_nil _).symm

end

/-- So has an admission that was aborted. -/
theorem spreads_undone {info : ConnectInfo} (hNew : info.pid ∉ s.processes.pids) (registry : Registry) :
    Spreads info.pid s (s.undone info registry)
      (Right.forAll s.grantsForeground (s.processes.due info.pid s.grantsForeground)) :=
  .spread hNew (List.forall_mem_nil _) (List.append_nil _).symm

end Session

/-- Bring-up does not change whether the foreground is granted. -/
theorem BringUp.Ends.grantsForeground_eq {env : Environment} {defaults : SessionDefaults} {headless : Bool}
    {issued : Nat} {s : Session} {info : ConnectInfo} {o : Outcome}
    (ends : Ends env defaults headless issued s info o) :
    o.session.grantsForeground = s.grantsForeground := by
  cases ends with
  | already => rfl
  | noEvent => rfl
  | noWindow => rfl
  | raised => rfl

namespace Attach

variable {env : Environment} {defaults : SessionDefaults} {headless : Bool} {issued : Nat} {s u : Session}
  {t : Loopback} {info : ConnectInfo} {o : Outcome}

theorem told_greeting : told (greeting env info) = [] := by
  rw [greeting, told_append, env.told_controlCalls, env.told_accessibilityCalls, announcements]
  split
  · rfl
  · rfl

/-- The rights step tells every process that is due, in the order of the records. -/
theorem told_rights : told (rights env u info (joining s info)) =
    Right.forAll u.grantsForeground (u.processes.due info.pid u.grantsForeground) := by
  have hDue : (u.processes.enter (joining s info)).differingFrom u.grantsForeground = u.processes.due info.pid _ :=
    ProcessTable.differingFrom_enter rfl
  rw [rights, env.told_controlCalls, Session.foregroundRequests, List.filterMap_map, ← hDue]
  exact congrFun List.filterMap_eq_map _

theorem told_run {calls : List Call} {result : Except Refusal Unit}
    (h : BringUp.run env defaults headless issued s info = ⟨result, u, calls⟩) : told calls = [] := by
  apply told_eq_nil
  intro call hMem
  have hRun : call ∈ (BringUp.run env defaults headless issued s info).calls := by
    rw [h]
    exact hMem
  exact told?_of_not_serves (serves_eq_false_of_raises (BringUp.raises_of_mem_run hRun).2)

/-- The calls for a process that gets through tell of rights only in between. -/
theorem told_attached {calls : List Call} {input output : HandleId}
    (hUp : BringUp.run env defaults headless issued s info = ⟨.ok (), u, calls⟩) :
    told (greeting env info ++ calls ++
        (rights env u info (joining s info) ++ (t.publishConnection info.pid input output).calls)) =
      Right.forAll u.grantsForeground (u.processes.due info.pid u.grantsForeground) := by
  have hPublication : told (t.publishConnection info.pid input output).calls = [] := rfl
  rw [told_append, told_append, told_append, told_greeting, told_run hUp, told_rights, hPublication,
    List.nil_append, List.nil_append, List.append_nil]

/-- Whatever comes of an attach, the calls about rights are those that the new flags ask for. -/
theorem Ends.spreads (ends : Ends env defaults headless issued s t info o) (consistent : s.Consistent) :
    Session.Spreads info.pid s o.session (told o.calls) := by
  cases ends with
  | known => exact Session.spreads_of_eq rfl
  | notUp _ hUp =>
      have hProcesses := (BringUp.ends_of_run consistent.sound hUp).processes_eq
      rw [told_append, told_greeting, told_run hUp]
      exact Session.spreads_of_eq hProcesses
  | inputRefused hNew =>
      rw [told_append, told_greeting, told_rights]
      exact Session.spreads_undone hNew _
  | outputRefused hNew =>
      rw [told_append, told_greeting, told_rights]
      exact Session.spreads_undone hNew _
  | attached hNew hUp _ _ _ _ hPublished =>
      subst hPublished
      have ended := BringUp.ends_of_run consistent.sound hUp
      rw [told_attached hUp]
      exact (Session.spreads_withProcess (ended.processes_eq ▸ hNew) rfl rfl).of_processes ended.processes_eq
        ended.grantsForeground_eq

/-- A process that got through and is turned away leaves the others with the rights that they were told of. -/
theorem Ends.spreads_undelivered {tokens : ConnectionTokens} (ends : Ends env defaults headless issued s t info o)
    (consistent : s.Consistent) (h : o.result = .ok tokens) :
    Session.Spreads info.pid s (o.session.rollback info.pid) (told o.calls) := by
  cases ends with
  | known => cases h
  | notUp => cases h
  | inputRefused => cases h
  | outputRefused => cases h
  | attached hNew hUp _ _ _ _ hPublished =>
      subst hPublished
      have ended := BringUp.ends_of_run consistent.sound hUp
      rw [told_attached hUp]
      exact (Session.spreads_turnedAway (ended.processes_eq ▸ hNew) rfl).of_processes ended.processes_eq
        ended.grantsForeground_eq

end Attach

end ConsoleHost
