import ConsoleHost.Proofs.Registry.Rewire
import ConsoleHost.Proofs.Session.Aborted

/-! A session whose wake event is another one. Attaching a process does not depend on which event a session
wakes by: with another event it takes the same course to the same session, but for the event. -/

namespace ConsoleHost

namespace Session

/-- The session with another wake event, which its input endpoint gets as well. -/
def rewoken (s : Session) (event : RawHandle) : Session :=
  { s with
    wakeEvent := some event
    registry := s.input.elim s.registry fun id => s.registry.rewire id event }

variable {s : Session} {info : ConnectInfo} {record : ProcessRecord} {registry : Registry}
  {input : ObjectId} {old event : RawHandle}

theorem rewoken_of_input (hInput : s.input = some input) :
    s.rewoken event = { s with wakeEvent := some event, registry := s.registry.rewire input event } := by
  simp [rewoken, hInput]

theorem rewoken_eventOnly (hInput : s.input = none) :
    (s.eventOnly old).rewoken event = s.eventOnly event := by
  simp [rewoken, eventOnly, hInput]

theorem rewoken_raised (sound : s.registry.Sound) {buffer window : Size} {title : String} :
    (s.raised old buffer window title).rewoken event = s.raised event buffer window title := by
  have hNe : (s.registry.create (.input old) true).nextObject ≠ s.registry.nextObject := by
    simp [Registry.nextObject, Registry.create]
  have hRegistry : (s.raised old buffer window title).registry.rewire s.registry.nextObject event =
      (s.raised event buffer window title).registry := by
    simp only [raised]
    rw [Registry.rewire_create, if_neg hNe, Registry.rewire_create, if_pos rfl,
      Registry.rewire_of_new sound.nextObject_not_mem]
  rw [rewoken_of_input rfl, hRegistry]
  rfl

/-- Renewing the wake event and admitting a process may change places. -/
theorem rewoken_withProcess (hInput : s.input = some input) :
    (s.withProcess info record registry).rewoken event =
      (s.rewoken event).withProcess info record (registry.rewire input event) := by
  rw [rewoken_of_input hInput]
  exact rewoken_of_input hInput

/-- Discarding handles and renewing the event of the input may change places. -/
theorem foldl_discardHandle_rewire (handles : List HandleId) :
    handles.foldl Registry.discardHandle (registry.rewire input event) =
      (handles.foldl Registry.discardHandle registry).rewire input event := by
  induction handles generalizing registry with
  | nil => rfl
  | cons handle rest ih => rw [List.foldl_cons, List.foldl_cons, Registry.discardHandle_rewire, ih]

/-- Renewing the wake event and undoing a connection may change places. -/
theorem rollback_rewoken (s : Session) (event : RawHandle) (pid : UInt32) :
    (s.rewoken event).rollback pid = (s.rollback pid).rewoken event := by
  cases hFind : s.processes.find? pid with
  | none =>
      have hNone : pid ∉ s.processes.pids := ProcessTable.find?_eq_none_iff.1 hFind
      have hSame : pid ∉ (s.rewoken event).processes.pids := hNone
      rw [rollback_of_not_mem hNone, rollback_of_not_mem hSame]
      rfl
  | some record =>
      have hSame : (s.rewoken event).processes.find? pid = some record := hFind
      rw [rollback_of_find? hFind, rollback_of_find? hSame]
      cases hInput : s.input with
      | none => simp [rewoken, hInput]
      | some input => simp [rewoken, hInput, foldl_discardHandle_rewire]

/-- The input endpoint of a session that is up is pinned with the wake event it was made with. -/
theorem Consistent.pins_input (consistent : s.Consistent) (hUp : s.initialized = true)
    (hEvent : s.wakeEvent = some event) (hInput : s.input = some input) :
    s.registry.Pins input (.input event) := by
  obtain ⟨_, _, _, _, _, hosts⟩ := consistent.up hUp
  cases hosts.wakeEvent_eq.symm.trans hEvent
  cases hosts.input_eq.symm.trans hInput
  exact (hosts.pins_iff _ _).2 (.inl ⟨rfl, rfl⟩)

/-- Handles are opened on the endpoints of a session as they are with another wake event. -/
theorem Consistent.openHandle_rewoken (consistent : s.Consistent) (event : RawHandle) (hUp : s.initialized = true)
    (hEvent : s.wakeEvent = some old) (hInput : s.input = some input) {output : ObjectId}
    {one two : Registry}
    (hOne : s.registry.openHandle input .readWrite .all = (.ok s.registry.nextHandle, one))
    (hTwo : one.openHandle output .readWrite .all = (.ok one.nextHandle, two)) :
    (s.rewoken event).registry.openHandle input .readWrite .all =
        (.ok (s.rewoken event).registry.nextHandle, one.rewire input event) ∧
      (one.rewire input event).openHandle output .readWrite .all =
        (.ok (one.rewire input event).nextHandle, two.rewire input event) := by
  have hPins := consistent.pins_input hUp hEvent hInput
  have hPinsOne := (Registry.pins_openHandle hOne).2 hPins
  rw [rewoken_of_input hInput]
  refine ⟨(Registry.openHandle_rewire hPins).trans ?_, (Registry.openHandle_rewire hPinsOne).trans ?_⟩
  · rw [hOne]
    rfl
  · rw [hTwo]
    rfl

end Session

open Call

namespace BringUp

variable {env : Environment} {defaults : SessionDefaults} {headless : Bool} {issued : Nat} {s : Session}
  {info : ConnectInfo} {event : RawHandle}

/-- A session that holds a wake event keeps it and makes no call. -/
theorem holdWakeEvent_of_some (h : s.wakeEvent = some event) :
    holdWakeEvent env.system issued s = (.ok event, []) := by
  simp only [holdWakeEvent, h]

theorem holdWakeEvent_of_none (h : s.wakeEvent = none) (hCreate : env.system.createEvent = .ok ()) :
    holdWakeEvent env.system issued s =
      (.ok (env.system.issue issued), [.createEvent (some (env.system.issue issued))]) := by
  simp only [holdWakeEvent, h, hCreate]

/-- Where events can be made, bring-up always gets past this step. -/
theorem holdWakeEvent_ok (issued : Nat) (s : Session) (hCreate : env.system.createEvent = .ok ()) :
    ∃ event calls, holdWakeEvent env.system issued s = (.ok event, calls) := by
  cases hEvent : s.wakeEvent with
  | some event => exact ⟨event, [], holdWakeEvent_of_some hEvent⟩
  | none => exact ⟨_, _, holdWakeEvent_of_none hEvent hCreate⟩

/-- Bring-up keeps a wake event that the session holds. -/
theorem Ends.wakeEvent_eq {o : Outcome} (ends : Ends env defaults headless issued s info o)
    (h : s.wakeEvent = some event) : o.session.wakeEvent = some event := by
  have hHeld : holdWakeEvent env.system issued s = (.ok event, []) := holdWakeEvent_of_some h
  cases ends with
  | already => exact h
  | noEvent => exact h
  | noWindow hDown hEvent =>
      cases hHeld.symm.trans hEvent
      rfl
  | raised hDown hEvent =>
      cases hHeld.symm.trans hEvent
      rfl

section

variable {calls more : List Call}
  (hEvent : holdWakeEvent env.system issued s = (.ok event, calls)) (hDown : s.initialized = false)

include hEvent hDown

/-- Without its window, bring-up stops with the event held and nothing created. -/
theorem run_of_noWindow {refusal : Refusal} (sound : s.registry.Sound)
    (hWindow : openWindow env headless (title defaults info) (windowSize defaults info) =
      (.error refusal, more)) :
    run env defaults headless issued s info = ⟨.error refusal, s.eventOnly event, calls ++ more⟩ := by
  rw [run, if_neg (by simp [hDown])]
  simp only [hEvent, hWindow, sound.unpin_create_pair]
  rfl

/-- With its window, bring-up raises the session. -/
theorem run_of_window
    (hWindow : openWindow env headless (title defaults info) (windowSize defaults info) =
      (.ok (), more)) :
    run env defaults headless issued s info =
      ⟨.ok (), s.raised event (bufferSize defaults info) (windowSize defaults info)
        (title defaults info), calls ++ more⟩ := by
  rw [run, if_neg (by simp [hDown])]
  simp only [hEvent, hWindow]
  rfl

end

/-- Bring-up depends on the number of handles issued only for the wake event it makes. -/
theorem run_congr {other : Nat}
    (h : holdWakeEvent env.system other s = holdWakeEvent env.system issued s) :
    run env defaults headless other s info = run env defaults headless issued s info := by
  simp only [run, h]

end BringUp

namespace Attach

variable {env : Environment} {defaults : SessionDefaults} {headless : Bool} {issued other : Nat}
  {s : Session} {t : Loopback} {info : ConnectInfo} {event : RawHandle}

/-- An attach keeps a wake event that the session holds. -/
theorem Ends.wakeEvent_eq {o : Outcome} (ends : Ends env defaults headless issued s t info o)
    (sound : s.registry.Sound) (h : s.wakeEvent = some event) : o.session.wakeEvent = some event := by
  cases ends with
  | known => exact h
  | notUp _ hUp => exact (BringUp.ends_of_run sound hUp).wakeEvent_eq h
  | inputRefused => exact h
  | outputRefused => exact h
  | attached _ hUp => exact (BringUp.ends_of_run sound hUp).wakeEvent_eq h

/-- Two attempts that clients cannot tell apart, where the second leaves the session of the first, changed
by `f`. -/
structure Mirrors (f : Session → Session) (first second : Outcome) : Prop where
  result_eq : second.result = first.result
  session_eq : second.session = f first.session
  transport_eq : second.transport = first.transport
  reaching_eq : reaching second.calls = reaching first.calls

/-- How many handles were issued before matters to nothing but the wake event. -/
theorem run_congr
    (h : BringUp.holdWakeEvent env.system other s = BringUp.holdWakeEvent env.system issued s) :
    run env defaults headless other s t info = run env defaults headless issued s t info := by
  have hUp (processes : ProcessTable) :
      BringUp.run env defaults headless other { s with processes := processes } info =
        BringUp.run env defaults headless issued { s with processes := processes } info :=
    BringUp.run_congr h
  simp only [run, complete, hUp]

/-- Where the wake event comes out the same, so does the attach. -/
theorem mirrors_of_hold
    (h : BringUp.holdWakeEvent env.system other s = BringUp.holdWakeEvent env.system issued s) :
    Mirrors id (run env defaults headless issued s t info) (run env defaults headless other s t info) := by
  rw [run_congr h]
  exact ⟨rfl, rfl, rfl, rfl⟩

section

variable {renewed : RawHandle} {first second more : List Call} {held : Option RawHandle}
  (consistent : s.Consistent) (hDown : s.initialized = false)
  (hFirst : BringUp.holdWakeEvent env.system issued s = (.ok event, first))
  (hSecond : BringUp.holdWakeEvent env.system other { s with wakeEvent := held } = (.ok renewed, second))

include consistent hDown hFirst hSecond

/-! With a window both sessions come up and the process gets through. Without one both stay down, and keep
nothing but their events. -/

/-- Where bring-up succeeds, the attaches differ in the wake event alone. -/
theorem mirrors_of_window
    (hWindow : BringUp.openWindow env headless (BringUp.title defaults info)
      (BringUp.windowSize defaults info) = (.ok (), more)) :
    Mirrors (·.rewoken renewed) (run env defaults headless issued s t info)
      (run env defaults headless other { s with wakeEvent := held } t info) := by
  have consistentOther := consistent.with_wakeEvent hDown held
  have hNew : info.pid ∉ s.processes.pids := by simp [ProcessTable.pids, (consistent.down hDown).records_eq]
  have hNewOther : info.pid ∉ { s with wakeEvent := held }.processes.pids := hNew
  have hUp := BringUp.run_of_window hFirst hDown hWindow
  have hOther := BringUp.run_of_window hSecond hDown hWindow
  have hCalls := (BringUp.ends_of_run consistent.sound hUp).reaching_calls
  have hOtherCalls := (BringUp.ends_of_run consistentOther.sound hOther).reaching_calls
  obtain ⟨input, output, one, two, hInput, hOutput, hOne, hTwo⟩ :=
    consistent.openHandle_raised event (BringUp.bufferSize defaults info)
      (BringUp.windowSize defaults info) (BringUp.title defaults info)
  obtain ⟨hOneOther, hTwoOther⟩ :=
    (consistent.raised hDown event _ _ _).openHandle_rewoken renewed rfl rfl hInput hOne hTwo
  have hRewoken := (Session.rewoken_raised consistent.sound : (s.raised event (BringUp.bufferSize defaults info)
    (BringUp.windowSize defaults info) (BringUp.title defaults info)).rewoken renewed = _)
  rw [hRewoken] at hOneOther
  rw [run_of_opened hNew hUp rfl hInput hOutput hOne hTwo,
    run_of_opened hNewOther hOther rfl hInput hOutput hOneOther hTwoOther]
  refine ⟨rfl, ((Session.rewoken_withProcess hInput).trans ?_).symm, rfl, ?_⟩
  · rw [hRewoken]
    rfl
  · simp only [reaching_append, reaching_greeting, reaching_rights] at hCalls hOtherCalls ⊢
    rw [hCalls, hOtherCalls]
    rfl

/-- Where bring-up stops at the window, they differ in the wake event alone. -/
theorem mirrors_of_noWindow {refusal : Refusal}
    (hWindow : BringUp.openWindow env headless (BringUp.title defaults info)
      (BringUp.windowSize defaults info) = (.error refusal, more)) :
    Mirrors (·.rewoken renewed) (run env defaults headless issued s t info)
      (run env defaults headless other { s with wakeEvent := held } t info) := by
  have down := consistent.down hDown
  have consistentOther := consistent.with_wakeEvent hDown held
  have hNew : info.pid ∉ s.processes.pids := by simp [ProcessTable.pids, down.records_eq]
  have hNewOther : info.pid ∉ { s with wakeEvent := held }.processes.pids := hNew
  have hUp := BringUp.run_of_noWindow hFirst hDown consistent.sound hWindow
  have hOther := BringUp.run_of_noWindow hSecond hDown consistentOther.sound hWindow
  have hCalls := (BringUp.ends_of_run consistent.sound hUp).reaching_calls
  have hOtherCalls := (BringUp.ends_of_run consistentOther.sound hOther).reaching_calls
  rw [run_of_notUp_consistent hNew hUp rfl (consistent.eventOnly hDown event),
    run_of_notUp_consistent hNewOther hOther rfl (consistentOther.eventOnly hDown renewed)]
  refine ⟨rfl, (Session.rewoken_eventOnly down.input_eq).symm, rfl, ?_⟩
  simp only [reaching_append] at hCalls hOtherCalls ⊢
  rw [hCalls, hOtherCalls]

/-- An attach from a session that holds no event is the same as one from a session that holds one, up to the
event. -/
theorem mirrors_run :
    Mirrors (·.rewoken renewed) (run env defaults headless issued s t info)
      (run env defaults headless other { s with wakeEvent := held } t info) := by
  rcases hWindow : BringUp.openWindow env headless (BringUp.title defaults info)
    (BringUp.windowSize defaults info) with ⟨refusal | _, more⟩
  · exact mirrors_of_noWindow consistent hDown hFirst hSecond hWindow
  · exact mirrors_of_window consistent hDown hFirst hSecond hWindow

end

end Attach

end ConsoleHost
