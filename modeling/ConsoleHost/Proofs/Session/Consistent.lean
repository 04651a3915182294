import ConsoleHost.Proofs.Registry.Pins
import ConsoleHost.Proofs.Session.Histories
import ConsoleHost.Proofs.Session.Records
import ConsoleHost.Session

/-! Consistent sessions. A session is up with two endpoints that it pins, or down with nothing pinned and
nobody connected. Every record is complete, and only connected processes have history buffers. Removing
processes and releasing the session keep that. -/

namespace ConsoleHost.Session

/-- The session is up with these endpoints, which it pins, and it pins nothing else. -/
structure Hosts (s : Session) (event : RawHandle) (input output : ObjectId) (buffer window : Size) :
    Prop where
  initialized_eq : s.initialized = true
  wakeEvent_eq : s.wakeEvent = some event
  input_eq : s.input = some input
  activeOutput_eq : s.activeOutput = some output
  pins_iff : ∀ id endpoint, s.registry.Pins id endpoint ↔
    (id = input ∧ endpoint = .input event) ∨ (id = output ∧ endpoint = .output buffer window)

def Up (s : Session) : Prop :=
  ∃ event input output buffer window, s.Hosts event input output buffer window

structure Down (s : Session) : Prop where
  initialized_eq : s.initialized = false
  input_eq : s.input = none
  activeOutput_eq : s.activeOutput = none
  not_pins : ∀ id endpoint, ¬s.registry.Pins id endpoint
  records_eq : s.processes.records = []

structure Consistent (s : Session) : Prop where
  sound : s.registry.Sound
  held : s.registry.Held
  phase : s.Up ∨ s.Down
  pids_nodup : s.processes.pids.Nodup
  complete : ∀ p ∈ s.processes.records, p.token.isSome ∧ p.input.isSome ∧ p.output.isSome
  lent : s.histories.LentTo s.processes.pids

variable {s s' : Session} {pid : UInt32} {record : ProcessRecord}

theorem Up.initialized (up : s.Up) : s.initialized = true := by
  obtain ⟨_, _, _, _, _, hosts⟩ := up
  exact hosts.initialized_eq

/-- A consistent session that is initialized is up. -/
theorem Consistent.up (consistent : s.Consistent) (h : s.initialized = true) : s.Up := by
  rcases consistent.phase with up | down
  · exact up
  · cases h.symm.trans down.initialized_eq

/-- One that is not initialized is down. -/
theorem Consistent.down (consistent : s.Consistent) (h : s.initialized = false) : s.Down := by
  rcases consistent.phase with up | down
  · cases h.symm.trans up.initialized
  · exact down

/-- A session with processes is up. -/
theorem Consistent.initialized_of_mem (consistent : s.Consistent) (h : record ∈ s.processes.records) :
    s.initialized = true := by
  rcases consistent.phase with up | down
  · exact up.initialized
  · rw [down.records_eq] at h
    cases h

theorem Consistent.continues (consistent : s.Consistent) : s.registry.Continues s.registry :=
  consistent.sound.continues consistent.held

/-- The session pins what it pinned, under the same names. -/
theorem Hosts.congr {event : RawHandle} {input output : ObjectId} {buffer window : Size}
    (hosts : s.Hosts event input output buffer window) (hInitialized : s'.initialized = s.initialized)
    (hEvent : s'.wakeEvent = s.wakeEvent) (hInput : s'.input = s.input)
    (hOutput : s'.activeOutput = s.activeOutput) (continues : s.registry.Continues s'.registry) :
    s'.Hosts event input output buffer window where
  initialized_eq := hInitialized.trans hosts.initialized_eq
  wakeEvent_eq := hEvent.trans hosts.wakeEvent_eq
  input_eq := hInput.trans hosts.input_eq
  activeOutput_eq := hOutput.trans hosts.activeOutput_eq
  pins_iff id endpoint := (continues.pins_iff id endpoint).trans (hosts.pins_iff id endpoint)

/-- A session stays up as long as its fields do and its registry goes on. -/
theorem Up.congr (up : s.Up) (hInitialized : s'.initialized = s.initialized)
    (hEvent : s'.wakeEvent = s.wakeEvent) (hInput : s'.input = s.input)
    (hOutput : s'.activeOutput = s.activeOutput) (continues : s.registry.Continues s'.registry) :
    s'.Up := by
  obtain ⟨event, input, output, buffer, window, hosts⟩ := up
  exact ⟨event, input, output, buffer, window, hosts.congr hInitialized hEvent hInput hOutput continues⟩

/-- A session stays down as long as its fields do and nobody joins. -/
theorem Down.congr (down : s.Down) (hInitialized : s'.initialized = s.initialized)
    (hInput : s'.input = s.input) (hOutput : s'.activeOutput = s.activeOutput)
    (continues : s.registry.Continues s'.registry)
    (hRecords : s'.processes.records = []) : s'.Down where
  initialized_eq := hInitialized.trans down.initialized_eq
  input_eq := hInput.trans down.input_eq
  activeOutput_eq := hOutput.trans down.activeOutput_eq
  not_pins id endpoint hPins := down.not_pins id endpoint ((continues.pins_iff id endpoint).1 hPins)
  records_eq := hRecords

/-- Only the registry changes, and it goes on: the session stays consistent. -/
theorem Consistent.with_registry (consistent : s.Consistent) {registry : Registry}
    (continues : s.registry.Continues registry) : { s with registry := registry }.Consistent where
  sound := continues.sound
  held := continues.held
  phase := consistent.phase.imp (·.congr rfl rfl rfl rfl continues)
    fun down => down.congr rfl rfl rfl continues down.records_eq
  pids_nodup := consistent.pids_nodup
  complete := consistent.complete
  lent := consistent.lent

theorem Consistent.with_focus (consistent : s.Consistent) (on : Bool) :
    { s with hasFocus := on }.Consistent :=
  ⟨consistent.sound, consistent.held,
    consistent.phase.imp (·.congr rfl rfl rfl rfl consistent.continues)
      fun down => down.congr rfl rfl rfl consistent.continues down.records_eq,
    consistent.pids_nodup, consistent.complete, consistent.lent⟩

/-- The wake event of a session that is down may come and go. -/
theorem Consistent.with_wakeEvent (consistent : s.Consistent) (h : s.initialized = false)
    (event : Option RawHandle) : { s with wakeEvent := event }.Consistent :=
  ⟨consistent.sound, consistent.held,
    .inr ((consistent.down h).congr rfl rfl rfl consistent.continues (consistent.down h).records_eq),
    consistent.pids_nodup, consistent.complete, consistent.lent⟩

/-- A fresh session is consistent. -/
theorem consistent_fresh (capacity : Nat) (passThrough : Bool) (event : Option RawHandle) :
    (fresh (.ofCapacity capacity) passThrough event).Consistent where
  sound := Registry.sound_empty
  held := Registry.held_empty
  phase := .inr ⟨rfl, rfl, rfl, fun _ _ => Registry.not_pins_empty, rfl⟩
  pids_nodup := List.nodup_nil
  complete := by simp [fresh, ProcessTable.empty]
  lent := by constructor <;> simp [fresh, HistoryPool.ofCapacity]

/-! A process that leaves. -/

theorem rollback_of_find? (h : s.processes.find? pid = some record) :
    s.rollback pid =
      { s with
        histories := s.histories.giveBack pid
        processes := s.processes.erase pid
        registry := record.primaryHandles.foldl Registry.discardHandle s.registry } := by
  simp [rollback, giveBackHistory, release?, ProcessTable.release, h]

theorem rollback_of_not_mem (h : pid ∉ s.processes.pids) : s.rollback pid = s.giveBackHistory pid := by
  have hNone := ProcessTable.find?_eq_none_iff.2 h
  simp [rollback, giveBackHistory, release?, ProcessTable.release, hNone]

/-- A process that departs is removed as if it had never connected. -/
theorem snd_depart (s : Session) (pid : UInt32) : (s.depart pid).2 = s.rollback pid := by
  simp only [depart, rollback]
  cases (s.giveBackHistory pid).release? pid with
  | none => rfl
  | some released => rfl

/-- The last process has left exactly if none is left. -/
theorem Consistent.fst_depart_eq_lastLeft_iff (consistent : s.Consistent) (h : record ∈ s.processes.records) :
    (s.depart record.pid).1 = .ok .lastLeft ↔ (s.rollback record.pid).processes.records = [] := by
  have hUp := consistent.initialized_of_mem h
  cases hFind : s.processes.find? record.pid with
  | none => exact absurd (List.mem_map_of_mem h) (ProcessTable.find?_eq_none_iff.1 hFind)
  | some found =>
      rw [rollback_of_find? hFind]
      simp only [depart, giveBackHistory, release?, ProcessTable.release, hFind, hUp, Option.map_some,
        ProcessTable.isEmpty, Bool.and_true, List.isEmpty_iff]
      split
      · next hEmpty => exact iff_of_true rfl hEmpty
      · next hOthers => exact iff_of_false nofun hOthers

theorem Consistent.rollback_of_not_mem (consistent : s.Consistent) (h : pid ∉ s.processes.pids) :
    s.rollback pid = s := by
  rw [Session.rollback_of_not_mem h, giveBackHistory, consistent.lent.giveBack_of_not_mem h]

/-- Undoing a connection keeps the session consistent. -/
theorem Consistent.rollback (consistent : s.Consistent) (pid : UInt32) :
    (s.rollback pid).Consistent := by
  cases hFind : s.processes.find? pid with
  | none =>
      rw [consistent.rollback_of_not_mem (ProcessTable.find?_eq_none_iff.1 hFind)]
      exact consistent
  | some record =>
      have hPids : (s.processes.erase pid).pids = s.processes.pids.erase pid :=
        ProcessTable.pids_erase
      have continues := consistent.continues.foldl_discardHandle record.primaryHandles
      rw [rollback_of_find? hFind]
      refine ⟨continues.sound, continues.held, ?_, ?_, ?_, ?_⟩
      · refine consistent.phase.imp (·.congr rfl rfl rfl rfl continues) fun down => ?_
        refine down.congr rfl rfl rfl continues ?_
        simp [ProcessTable.erase, down.records_eq]
      · rw [hPids]
        exact consistent.pids_nodup.erase pid
      · intro p hMem
        exact consistent.complete p (ProcessTable.mem_records_of_mem_erase hMem)
      · refine consistent.lent.giveBack fun q hMem hOther => ?_
        rw [hPids]
        exact (List.mem_erase_of_ne hOther).2 hMem

theorem Consistent.foldl_rollback (consistent : s.Consistent) (pids : List UInt32) :
    (pids.foldl Session.rollback s).Consistent := by
  induction pids generalizing s with
  | nil => exact consistent
  | cons pid rest ih => exact ih (consistent.rollback pid)

/-- Removing every process leaves no record. -/
theorem records_foldl_rollback {pids : List UInt32} (h : s.processes.pids = pids) :
    (pids.foldl rollback s).processes.records = [] := by
  induction pids generalizing s with
  | nil => simpa [ProcessTable.pids] using h
  | cons pid rest ih =>
      -- The identifiers still to be removed are those of the records that are left.
      refine ih ?_
      cases hFind : s.processes.find? pid with
      | none =>
          rw [ProcessTable.find?_eq_none_iff, h] at hFind
          exact absurd (List.mem_cons_self ..) hFind
      | some record => simp [rollback_of_find? hFind, ProcessTable.pids_erase, h]

/-! The release of the whole session. -/

/-- Shutdown keeps the session consistent. -/
theorem Consistent.teardown (consistent : s.Consistent) : s.teardown.Consistent := by
  have emptied := consistent.foldl_rollback s.processes.pids
  have hRecords : (s.processes.pids.foldl Session.rollback s).processes.records = [] :=
    records_foldl_rollback rfl
  rw [Session.teardown]
  generalize s.processes.pids.foldl Session.rollback s = e at emptied hRecords
  -- Whatever was pinned was one of the two endpoints, and both are let go of.
  have hReleased : (unpin? (unpin? e.registry e.input) e.activeOutput).Sound ∧
      (unpin? (unpin? e.registry e.input) e.activeOutput).Held ∧
      ∀ id endpoint, ¬(unpin? (unpin? e.registry e.input) e.activeOutput).Pins id endpoint := by
    rcases emptied.phase with ⟨event, input, output, buffer, window, hosts⟩ | down
    · rw [hosts.input_eq, hosts.activeOutput_eq]
      simp only [unpin?]
      have soundInput := emptied.sound.unpin input
      refine ⟨soundInput.unpin output, (emptied.held.unpin emptied.sound input).unpin soundInput output,
        fun id endpoint hPins => ?_⟩
      rw [soundInput.pins_unpin, emptied.sound.pins_unpin, hosts.pins_iff] at hPins
      obtain ⟨hOutput, hInput, ⟨hSame, _⟩ | ⟨hSame, _⟩⟩ := hPins
      · exact hInput hSame
      · exact hOutput hSame
    · rw [down.input_eq, down.activeOutput_eq]
      exact ⟨emptied.sound, emptied.held, down.not_pins⟩
  obtain ⟨sound, held, hPins⟩ := hReleased
  exact ⟨sound, held, .inr ⟨rfl, rfl, rfl, hPins, hRecords⟩, emptied.pids_nodup, emptied.complete,
    emptied.lent⟩

end ConsoleHost.Session
