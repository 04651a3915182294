import ConsoleHost.BringUp
import ConsoleHost.Proofs.Registry.Pairs
import ConsoleHost.Proofs.Session.Consistent

/-! What bringing a session up can end in: nothing to do, no wake event, no window, or a session that is
up with two endpoints that nobody has open. -/

namespace ConsoleHost

namespace Session

def raised (s : Session) (event : RawHandle) (buffer window : Size) (title : String) : Session :=
  { s with
    initialized := true
    wakeEvent := some event
    registry := (s.registry.create (.input event) true).create (.output buffer window) true
    input := some s.registry.nextObject
    activeOutput := some (s.registry.create (.input event) true).nextObject
    title := title }

/-- The session after a bring-up that got its wake event and no window. -/
def eventOnly (s : Session) (event : RawHandle) : Session :=
  { s with wakeEvent := some event, registry := s.registry.spend 2 0 }

end Session

namespace BringUp

variable (env : Environment) (defaults : SessionDefaults) (headless : Bool) (issued : Nat)
  (s : Session) (info : ConnectInfo)

/-- Everything that bringing a session up can end in. -/
inductive Ends : Outcome → Prop where
  | already (hUp : s.initialized = true) : Ends ⟨.ok (), s, []⟩
  | noEvent {refusal : Refusal} {calls : List Call} (hDown : s.initialized = false)
      (hEvent : holdWakeEvent env.system issued s = (.error refusal, calls)) :
      Ends ⟨.error refusal, s, calls⟩
  | noWindow {event : RawHandle} {refusal : Refusal} {calls more : List Call}
      (hDown : s.initialized = false)
      (hEvent : holdWakeEvent env.system issued s = (.ok event, calls))
      (hWindow : openWindow env headless (title defaults info) (windowSize defaults info) =
        (.error refusal, more)) :
      Ends ⟨.error refusal, s.eventOnly event, calls ++ more⟩
  | raised {event : RawHandle} {calls more : List Call} (hDown : s.initialized = false)
      (hEvent : holdWakeEvent env.system issued s = (.ok event, calls))
      (hWindow : openWindow env headless (title defaults info) (windowSize defaults info) =
        (.ok (), more)) :
      Ends ⟨.ok (), s.raised event (bufferSize defaults info) (windowSize defaults info)
        (title defaults info), calls ++ more⟩

variable {env defaults headless issued s info}

theorem run_of_initialized (h : s.initialized = true) :
    run env defaults headless issued s info = ⟨.ok (), s, []⟩ := by
  simp [run, h]

theorem ends_run (sound : s.registry.Sound) :
    Ends env defaults headless issued s info (run env defaults headless issued s info) := by
  simp only [run]
  split
  · next hUp => exact .already hUp
  · next hDown =>
      rw [Bool.not_eq_true] at hDown
      split
      · next hEvent => exact .noEvent hDown hEvent
      · next event calls hEvent =>
          split
          · next refusal more hWindow =>
              rw [sound.unpin_create_pair]
              exact .noWindow hDown hEvent hWindow
          · next more hWindow => exact .raised hDown hEvent hWindow

theorem ends_of_run {o : Outcome} (sound : s.registry.Sound)
    (h : run env defaults headless issued s info = o) :
    Ends env defaults headless issued s info o :=
  h ▸ ends_run sound

/-- Bring-up takes no notice of the records of processes. -/
theorem run_processes (processes : ProcessTable) :
    run env defaults headless issued { s with processes := processes } info =
      { run env defaults headless issued s info with
        session := { (run env defaults headless issued s info).session with
          processes := processes } } := by
  simp only [run]
  have hEvent : holdWakeEvent env.system issued { s with processes := processes } =
      holdWakeEvent env.system issued s := rfl
  rw [hEvent]
  split
  · rfl
  · rcases holdWakeEvent env.system issued s with ⟨refusal | event, calls⟩
    · rfl
    · rcases openWindow env headless (title defaults info) (windowSize defaults info)
        with ⟨refusal | _, more⟩
      · rfl
      · rfl

end BringUp

namespace Session

variable {s : Session}

/-- A session that is brought up hosts with the two new endpoints. -/
theorem Consistent.hosts_raised (consistent : s.Consistent) (h : s.initialized = false) (event : RawHandle)
    (buffer window : Size) (title : String) :
    (s.raised event buffer window title).Hosts event s.registry.nextObject
      (s.registry.create (.input event) true).nextObject buffer window where
  initialized_eq := rfl
  wakeEvent_eq := rfl
  input_eq := rfl
  activeOutput_eq := rfl
  pins_iff id endpoint := by
    have sound := consistent.sound.create (.input event) true
    rw [Session.raised, sound.pins_create, consistent.sound.pins_create]
    simp [(consistent.down h).not_pins, or_comm]

/-- Bringing a consistent session up makes it consistent again. -/
theorem Consistent.raised (consistent : s.Consistent) (h : s.initialized = false) (event : RawHandle)
    (buffer window : Size) (title : String) : (s.raised event buffer window title).Consistent := by
  have sound := consistent.sound.create (.input event) true
  exact ⟨sound.create _ true, (consistent.held.create consistent.sound _).create sound _,
    .inl ⟨_, _, _, _, _, consistent.hosts_raised h event buffer window title⟩,
    consistent.pids_nodup, consistent.complete, consistent.lent⟩

theorem Consistent.eventOnly (consistent : s.Consistent) (h : s.initialized = false)
    (event : RawHandle) : (s.eventOnly event).Consistent :=
  (consistent.with_registry (consistent.continues.spend 2 0)).with_wakeEvent h (some event)

end Session

namespace BringUp

variable {env : Environment} {defaults : SessionDefaults} {headless : Bool} {issued : Nat}
  {s : Session} {info : ConnectInfo}

theorem Ends.consistent {o : Outcome} (ends : Ends env defaults headless issued s info o)
    (consistent : s.Consistent) : o.session.Consistent := by
  cases ends with
  | already => exact consistent
  | noEvent => exact consistent
  | noWindow hDown => exact consistent.eventOnly hDown _
  | raised hDown => exact consistent.raised hDown ..

theorem Ends.processes_eq {o : Outcome} (ends : Ends env defaults headless issued s info o) :
    o.session.processes = s.processes := by
  cases ends with
  | already => rfl
  | noEvent => rfl
  | noWindow => rfl
  | raised => rfl

theorem Ends.histories_eq {o : Outcome} (ends : Ends env defaults headless issued s info o) :
    o.session.histories = s.histories := by
  cases ends with
  | already => rfl
  | noEvent => rfl
  | noWindow => rfl
  | raised => rfl

theorem Ends.initialized_of_ok {o : Outcome} (ends : Ends env defaults headless issued s info o)
    (h : o.result = .ok ()) : o.session.initialized = true := by
  cases ends with
  | already hUp => exact hUp
  | noEvent => cases h
  | noWindow => cases h
  | raised => rfl

end BringUp

end ConsoleHost
