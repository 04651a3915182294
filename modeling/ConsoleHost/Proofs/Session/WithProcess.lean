import ConsoleHost.Attach
import ConsoleHost.Proofs.Session.BringUp

/-! A session while one more process joins it: its history buffer, its record behind the others, its two
handles, and what is left when it is removed again. -/

namespace ConsoleHost.Session

/-- The session with a process behind the others, from its request for a history buffer on. -/
def withProcess (s : Session) (info : ConnectInfo) (record : ProcessRecord) (registry : Registry) :
    Session :=
  { s with
    histories := s.histories.request info.appName info.pid
    processes := (s.processes.setForeground s.grantsForeground).enter record
    registry := registry }

/-- The session after a connection that was undone, and what is left of the handles opened for it. -/
def undone (s : Session) (info : ConnectInfo) (registry : Registry) : Session :=
  { s with
    histories := (s.histories.request info.appName info.pid).giveBack info.pid
    processes := s.processes.setForeground s.grantsForeground
    registry := registry }

variable {s : Session} {info : ConnectInfo} {record : ProcessRecord} {registry registry' : Registry}
  {handle : HandleId}
  {object : ObjectId} {note : HandleId → ProcessRecord → ProcessRecord}

theorem openPrimary_withProcess_of_ok (hNew : info.pid ∉ s.processes.pids)
    (hPid : record.pid = info.pid) (h : registry.openHandle object .readWrite .all = (.ok handle, registry')) :
    (s.withProcess info record registry).openPrimary info.pid object note =
      (.ok handle, s.withProcess info (note handle record) registry') := by
  rw [← hPid, ← ProcessTable.pids_setForeground s.grantsForeground] at hNew
  have hUpdate := ProcessTable.update_enter (note handle) hNew
  rw [hPid] at hUpdate
  simp only [openPrimary, withProcess, h, hUpdate]

theorem openPrimary_withProcess_of_error {refusal : Refusal} {pid : UInt32}
    (h : registry.openHandle object .readWrite .all = (.error refusal, registry)) :
    (s.withProcess info record registry).openPrimary pid object note =
      (.error refusal, s.withProcess info record registry) := by
  simp only [openPrimary, withProcess, h]

theorem update_withProcess {change : ProcessRecord → ProcessRecord}
    (hNew : info.pid ∉ s.processes.pids) (hPid : record.pid = info.pid) :
    (s.withProcess info record registry).processes.update info.pid change =
      (s.withProcess info (change record) registry).processes := by
  rw [← hPid, ← ProcessTable.pids_setForeground s.grantsForeground] at hNew
  rw [← hPid]
  exact ProcessTable.update_enter change hNew

section

variable {input output : ObjectId} {one two : Registry} {refusal : Refusal}

theorem openPrimaries_withProcess_of_inputRefused (hInput : s.input = some input)
    (hOutput : s.activeOutput = some output)
    (hRefused : registry.openHandle input .readWrite .all = (.error refusal, registry)) :
    (s.withProcess info record registry).openPrimaries info.pid =
      (.error refusal, s.withProcess info record registry) := by
  have hSessionInput : (s.withProcess info record registry).input = some input := hInput
  have hSessionOutput : (s.withProcess info record registry).activeOutput = some output := hOutput
  simp only [openPrimaries, hSessionInput, hSessionOutput, openPrimary_withProcess_of_error hRefused]

theorem openPrimaries_withProcess_of_outputRefused (hNew : info.pid ∉ s.processes.pids)
    (hPid : record.pid = info.pid) (hInput : s.input = some input)
    (hOutput : s.activeOutput = some output)
    (hOne : registry.openHandle input .readWrite .all = (.ok registry.nextHandle, one))
    (hRefused : one.openHandle output .readWrite .all = (.error refusal, one)) :
    (s.withProcess info record registry).openPrimaries info.pid =
      (.error refusal,
        s.withProcess info { record with input := some registry.nextHandle } one) := by
  have hSessionInput : (s.withProcess info record registry).input = some input := hInput
  have hSessionOutput : (s.withProcess info record registry).activeOutput = some output := hOutput
  simp only [openPrimaries, hSessionInput, hSessionOutput,
    openPrimary_withProcess_of_ok hNew hPid hOne, openPrimary_withProcess_of_error hRefused]

theorem openPrimaries_withProcess_of_opened (hNew : info.pid ∉ s.processes.pids)
    (hPid : record.pid = info.pid) (hInput : s.input = some input)
    (hOutput : s.activeOutput = some output)
    (hOne : registry.openHandle input .readWrite .all = (.ok registry.nextHandle, one))
    (hTwo : one.openHandle output .readWrite .all = (.ok one.nextHandle, two)) :
    (s.withProcess info record registry).openPrimaries info.pid =
      (.ok (registry.nextHandle, one.nextHandle),
        s.withProcess info
          { record with input := some registry.nextHandle, output := some one.nextHandle } two) := by
  have hSessionInput : (s.withProcess info record registry).input = some input := hInput
  have hSessionOutput : (s.withProcess info record registry).activeOutput = some output := hOutput
  have hNoted : { record with input := some registry.nextHandle }.pid = info.pid := hPid
  simp only [openPrimaries, hSessionInput, hSessionOutput,
    openPrimary_withProcess_of_ok hNew hPid hOne, openPrimary_withProcess_of_ok hNew hNoted hTwo]

end

theorem rollback_withProcess (hNew : info.pid ∉ s.processes.pids) (hPid : record.pid = info.pid) :
    (s.withProcess info record registry).rollback info.pid =
      s.undone info (record.primaryHandles.foldl Registry.discardHandle registry) := by
  rw [← hPid, ← ProcessTable.pids_setForeground s.grantsForeground] at hNew
  have hFind := ProcessTable.find?_enter hNew
  have hErase := ProcessTable.erase_enter hNew
  rw [hPid] at hFind hErase
  rw [rollback_of_find? hFind]
  simp only [withProcess, undone, hErase]

/-- A process without a history buffer and without handles leaves no trace. -/
theorem Consistent.rollback_enter (consistent : s.Consistent) (hNew : record.pid ∉ s.processes.pids)
    (hHandles : record.primaryHandles = []) :
    { s with processes := s.processes.enter record }.rollback record.pid = s := by
  have hHistories := consistent.lent.giveBack_of_not_mem hNew
  rw [rollback_of_find? (ProcessTable.find?_enter hNew)]
  simp only [hHistories, ProcessTable.erase_enter hNew, hHandles, List.foldl_nil]

theorem Consistent.undone (consistent : s.Consistent) (hNew : info.pid ∉ s.processes.pids)
    (continues : s.registry.Continues registry) : (s.undone info registry).Consistent := by
  have hPids : (s.undone info registry).processes.pids = s.processes.pids :=
    ProcessTable.pids_setForeground _
  refine ⟨continues.sound, continues.held, ?_, ?_, ?_, ?_⟩
  · refine consistent.phase.imp (·.congr rfl rfl rfl rfl continues) fun down => ?_
    refine down.congr rfl rfl rfl continues ?_
    simp [Session.undone, ProcessTable.setForeground, down.records_eq]
  · rw [hPids]
    exact consistent.pids_nodup
  · intro p hMem
    obtain ⟨q, hOld, rfl⟩ := List.mem_map.1 hMem
    exact consistent.complete q hOld
  · rw [hPids]
    refine (consistent.lent.request hNew).giveBack fun q hMem hOther => ?_
    exact (List.mem_append.1 hMem).resolve_right fun h => hOther (List.mem_singleton.1 h)

/-- A process with all that belongs to it joins a session that is up. -/
theorem Consistent.withProcess (consistent : s.Consistent) (up : s.Up)
    (hNew : info.pid ∉ s.processes.pids) (hPid : record.pid = info.pid)
    (hComplete : record.token.isSome ∧ record.input.isSome ∧ record.output.isSome)
    (continues : s.registry.Continues registry) : (s.withProcess info record registry).Consistent := by
  have hPids : (s.withProcess info record registry).processes.pids = s.processes.pids ++ [info.pid] := by
    rw [Session.withProcess, ProcessTable.pids_enter, ProcessTable.pids_setForeground, hPid]
  refine ⟨continues.sound, continues.held, .inl (up.congr rfl rfl rfl rfl continues), ?_, ?_, ?_⟩
  · rw [hPids, ← List.concat_eq_append]
    exact consistent.pids_nodup.concat hNew
  · intro p hMem
    rcases List.mem_append.1 hMem with hOld | hLast
    · obtain ⟨q, hBefore, rfl⟩ := List.mem_map.1 hOld
      exact consistent.complete q hBefore
    · cases List.mem_singleton.1 hLast
      exact hComplete
  · rw [hPids]
    exact consistent.lent.request hNew

/-- Nothing stands against the first handles on the endpoints of a session that was just brought up. -/
theorem Consistent.openHandle_raised (consistent : s.Consistent) (event : RawHandle)
    (buffer window : Size) (title : String) :
    ∃ input output one two, (s.raised event buffer window title).input = some input ∧
      (s.raised event buffer window title).activeOutput = some output ∧
      (s.raised event buffer window title).registry.openHandle input .readWrite .all =
        (.ok (s.raised event buffer window title).registry.nextHandle, one) ∧
      one.openHandle output .readWrite .all = (.ok one.nextHandle, two) := by
  have sound := consistent.sound.create (.input event) true
  have hNe : (s.registry.create (.input event) true).nextObject ≠ s.registry.nextObject := by
    simp [Registry.nextObject, Registry.create]
  have hFirst := (consistent.sound.object?_create (.input event) true _).trans (if_pos rfl)
  have hLater := sound.object?_create (.output buffer window) true
  have hInput := ((hLater _).trans (if_neg hNe.symm)).trans hFirst
  obtain ⟨one, hOne⟩ := Registry.openHandle_of_unopened hInput
  have hOutput := ((Registry.object?_openHandle hInput hOne _).trans (if_neg hNe)).trans
    ((hLater _).trans (if_pos rfl))
  obtain ⟨two, hTwo⟩ := Registry.openHandle_of_unopened hOutput
  exact ⟨_, _, one, two, rfl, rfl, hOne, hTwo⟩

end ConsoleHost.Session
