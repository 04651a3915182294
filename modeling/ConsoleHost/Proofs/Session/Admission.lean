import ConsoleHost.Proofs.Registry.ShareModes
import ConsoleHost.Proofs.Session.Rewoken

/-! When a session admits a process. Nothing but the process being known already, a bring-up that gets no wake
event or no window, and a handle on an endpoint that does not share stand against it. -/

namespace ConsoleHost

def IoHandle.SharesAll (h : IoHandle) : Prop :=
  h.share.sharesRead = true ∧ h.share.sharesWrite = true

instance (h : IoHandle) : Decidable h.SharesAll := by
  unfold IoHandle.SharesAll
  infer_instance

/-- Who reads and writes and shares both only has to be let. -/
theorem compatible_readWrite_all_iff {h : IoHandle} :
    Compatible .readWrite .all h.access h.share ↔ h.SharesAll := by
  have hReads : AccessMask.readWrite.reads = true := by decide
  have hWrites : AccessMask.readWrite.writes = true := by decide
  have hSharesRead : ShareMode.all.sharesRead = true := by decide
  have hSharesWrite : ShareMode.all.sharesWrite = true := by decide
  simp [Compatible, IoHandle.SharesAll, hReads, hWrites, hSharesRead, hSharesWrite]

namespace Registry

variable {r r' : Registry} {id : ObjectId} {handle : HandleId} {object : SessionObject}

/-- The counts of a live object permit one more process, which reads and writes and shares both. -/
def permitsProcess (r : Registry) (id : ObjectId) : Bool :=
  (r.object? id).any fun object => object.counts.permits .readWrite .all

/-- While few handles were opened, the counts permit a process exactly if every handle lets others read and
write. -/
theorem Sound.permitsProcess_iff (sound : r.Sound) (few : r.Few) (hObject : r.object? id = some object) :
    r.permitsProcess id = true ↔ ∀ h ∈ r.handlesOn id, h.SharesAll := by
  rw [permitsProcess, hObject, Option.any_some,
    ((sound.accurate_of_few few).tallies id object hObject).permits_iff]
  exact forall₂_congr fun _ _ => compatible_readWrite_all_iff

/-- An object that was opened for a process permits it. -/
theorem permitsProcess_of_openHandle (h : r.openHandle id .readWrite .all = (.ok handle, r')) :
    r.permitsProcess id = true := by
  obtain ⟨object, hObject, hPermits, _⟩ := eq_of_openHandle h
  rw [permitsProcess, hObject, Option.any_some, hPermits]

/-- An object that refuses a process does so for sharing. -/
theorem not_permitsProcess_of_openHandle {refusal : Refusal} (hObject : r.object? id = some object)
    (h : r.openHandle id .readWrite .all = (.error refusal, r')) :
    refusal = .sharingViolation id.number ∧ r.permitsProcess id = false := by
  refine ⟨eq_sharingViolation_of_openHandle hObject h, ?_⟩
  rw [permitsProcess, hObject, Option.any_some]
  refine Bool.eq_false_iff.2 fun hPermits => ?_
  rw [openHandle_of_permits hObject hPermits] at h
  cases h

/-- Opening a handle on one object leaves the counts of another as they are. -/
theorem permitsProcess_openHandle_of_ne {access : AccessMask} {share : ShareMode} {other : ObjectId}
    (h : r.openHandle id access share = (.ok handle, r')) (hNe : other ≠ id) :
    r'.permitsProcess other = r.permitsProcess other := by
  obtain ⟨_, hObject, _⟩ := eq_of_openHandle h
  rw [permitsProcess, object?_openHandle hObject h, if_neg hNe, permitsProcess]

end Registry

namespace Session

variable {s : Session} {event : RawHandle} {input output : ObjectId} {buffer window : Size}

/-- Every handle that is open on an endpoint of the session lets others read and write. -/
def Shared (s : Session) : Prop :=
  ∀ id ∈ s.input.toList ++ s.activeOutput.toList, ∀ h ∈ s.registry.handlesOn id, h.SharesAll

instance (s : Session) : Decidable s.Shared := by
  unfold Shared
  infer_instance

/-- The counts of every endpoint of the session permit one more process. -/
def permitsProcess (s : Session) : Bool :=
  (s.input.toList ++ s.activeOutput.toList).all s.registry.permitsProcess

/-- A session permits a process if both of its endpoints do. -/
theorem permitsProcess_eq (hInput : s.input = some input) (hOutput : s.activeOutput = some output) :
    s.permitsProcess = (s.registry.permitsProcess input && s.registry.permitsProcess output) := by
  simp [permitsProcess, hInput, hOutput]

/-- The two endpoints of a session are different objects. -/
theorem Hosts.input_ne_output (hosts : s.Hosts event input output buffer window) : input ≠ output := by
  rintro rfl
  obtain ⟨_, hObject⟩ := (hosts.pins_iff input (.input event)).2 (.inl ⟨rfl, rfl⟩)
  obtain ⟨_, hOther⟩ := (hosts.pins_iff input (.output buffer window)).2 (.inr ⟨rfl, rfl⟩)
  cases hObject.symm.trans hOther

/-- While few handles were opened, the counts of the endpoints stand for the handles on them one by one. -/
theorem Consistent.permitsProcess_eq (consistent : s.Consistent) (few : s.registry.Few) :
    s.permitsProcess = decide s.Shared := by
  rcases consistent.phase with ⟨event, input, output, buffer, window, hosts⟩ | down
  · obtain ⟨_, hInput⟩ := (hosts.pins_iff input (.input event)).2 (.inl ⟨rfl, rfl⟩)
    obtain ⟨_, hOutput⟩ := (hosts.pins_iff output (.output buffer window)).2 (.inr ⟨rfl, rfl⟩)
    rw [Bool.eq_iff_iff, Session.permitsProcess_eq hosts.input_eq hosts.activeOutput_eq, Bool.and_eq_true,
      consistent.sound.permitsProcess_iff few hInput, consistent.sound.permitsProcess_iff few hOutput,
      decide_eq_true_eq]
    simp [Shared, hosts.input_eq, hosts.activeOutput_eq]
  · simp [permitsProcess, Shared, down.input_eq, down.activeOutput_eq]

end Session

namespace BringUp

/-- No wake event can be had for a session that holds none, or no window where one is due. -/
def Fails (env : Environment) (defaults : SessionDefaults) (headless : Bool) (s : Session)
    (info : ConnectInfo) : Prop :=
  (s.wakeEvent = none ∧ succeeds env.system.createEvent = false) ∨
    (headless = false ∧
      succeeds (env.createWindow (title defaults info) (windowSize defaults info)) = false)

instance (env : Environment) (defaults : SessionDefaults) (headless : Bool) (s : Session)
    (info : ConnectInfo) : Decidable (Fails env defaults headless s info) := by
  unfold Fails
  infer_instance

variable {env : Environment} {defaults : SessionDefaults} {headless : Bool} {issued : Nat}
  {s : Session} {info : ConnectInfo}

/-- Bring-up fails to hold a wake event only where there is none and none can be made. -/
theorem holdWakeEvent_error {refusal : Refusal} {calls : List Call}
    (h : holdWakeEvent env.system issued s = (.error refusal, calls)) :
    s.wakeEvent = none ∧ succeeds env.system.createEvent = false ∧
      ∃ reason, refusal = .bringUpFailed reason := by
  cases hEvent : s.wakeEvent with
  | some event => simp [holdWakeEvent, hEvent] at h
  | none =>
      cases hCreate : env.system.createEvent with
      | ok _ => simp [holdWakeEvent, hEvent, hCreate] at h
      | error failure =>
          simp only [holdWakeEvent, hEvent, hCreate, Prod.mk.injEq, Except.error.injEq] at h
          exact ⟨rfl, rfl, _, h.1.symm⟩

theorem not_eventless_of_holdWakeEvent {event : RawHandle} {calls : List Call}
    (h : holdWakeEvent env.system issued s = (.ok event, calls)) :
    ¬(s.wakeEvent = none ∧ succeeds env.system.createEvent = false) := by
  rintro ⟨hEvent, hCreate⟩
  cases hFailed : env.system.createEvent with
  | ok _ => simp [succeeds, hFailed] at hCreate
  | error failure => simp [holdWakeEvent, hEvent, hFailed] at h

/-- Bring-up fails at the window only where one is asked for and refused. -/
theorem openWindow_error {title : String} {size : Size} {refusal : Refusal} {calls : List Call}
    (h : openWindow env headless title size = (.error refusal, calls)) :
    headless = false ∧ succeeds (env.createWindow title size) = false ∧
      ∃ reason, refusal = .bringUpFailed reason := by
  cases headless with
  | true => simp [openWindow] at h
  | false =>
      cases hWindow : env.createWindow title size with
      | ok _ => simp [openWindow, hWindow] at h
      | error failure =>
          simp only [openWindow, hWindow, Bool.false_eq_true, ↓reduceIte, Prod.mk.injEq,
            Except.error.injEq] at h
          exact ⟨rfl, rfl, _, h.1.symm⟩

theorem not_windowless_of_openWindow {title : String} {size : Size} {calls : List Call}
    (h : openWindow env headless title size = (.ok (), calls)) :
    ¬(headless = false ∧ succeeds (env.createWindow title size) = false) := by
  rintro ⟨rfl, hFails⟩
  cases hWindow : env.createWindow title size with
  | ok _ => simp [succeeds, hWindow] at hFails
  | error failure => simp [openWindow, hWindow] at h

/-- Bringing up a session that is down fails for want of an event or a window, and for nothing else. -/
theorem Ends.fails_of_error {o : Outcome} {refusal : Refusal}
    (ends : Ends env defaults headless issued s info o) (h : o.result = .error refusal) :
    s.initialized = false ∧ Fails env defaults headless s info ∧
      ∃ reason, refusal = .bringUpFailed reason := by
  cases ends with
  | already => cases h
  | noEvent hDown hEvent =>
      cases h
      obtain ⟨hNone, hCreate, hReason⟩ := holdWakeEvent_error hEvent
      exact ⟨hDown, .inl ⟨hNone, hCreate⟩, hReason⟩
  | noWindow hDown _ hWindow =>
      cases h
      obtain ⟨hDue, hRefused, hReason⟩ := openWindow_error hWindow
      exact ⟨hDown, .inr ⟨hDue, hRefused⟩, hReason⟩
  | raised => cases h

/-- Bring-up that succeeds has not met one of the reasons to fail. -/
theorem Ends.not_fails_of_ok {o : Outcome} (ends : Ends env defaults headless issued s info o)
    (h : o.result = .ok ()) : ¬(s.initialized = false ∧ Fails env defaults headless s info) := by
  cases ends with
  | already hUp => simp [hUp]
  | noEvent => cases h
  | noWindow => cases h
  | raised _ hEvent hWindow =>
      rintro ⟨_, hFails⟩
      exact hFails.elim (not_eventless_of_holdWakeEvent hEvent) (not_windowless_of_openWindow hWindow)

end BringUp

namespace Attach

/-- The status with which a process is turned away: the first reason that applies. The endpoints of the
session are `shared` or not. -/
def refusal? (env : Environment) (defaults : SessionDefaults) (headless : Bool) (s : Session)
    (shared : Bool) (info : ConnectInfo) : Option Status :=
  if info.pid ∈ s.processes.pids then some .objectNameCollision
  else if s.initialized = false ∧ BringUp.Fails env defaults headless s info then some .unsuccessful
  else if s.initialized = true ∧ shared = false then some .sharingViolation
  else none

/-- How an attempt turned out: the status of a refusal, or nothing. -/
def Outcome.status? (o : Outcome) : Option Status :=
  match o.result with
  | .error refusal => some refusal.status
  | .ok _ => none

variable {env : Environment} {defaults : SessionDefaults} {headless : Bool} {issued : Nat}
  {s : Session} {t : Loopback} {info : ConnectInfo} {o : Outcome} {shared : Bool}

/-- A process that is connected already collides with itself. -/
theorem refusal?_of_mem (h : info.pid ∈ s.processes.pids) :
    refusal? env defaults headless s shared info = some .objectNameCollision :=
  if_pos h

section

variable (hNew : info.pid ∉ s.processes.pids)

include hNew

/-- Where bring-up fails, that is the refusal. -/
theorem refusal?_of_fails (hDown : s.initialized = false)
    (hFails : BringUp.Fails env defaults headless s info) :
    refusal? env defaults headless s shared info = some .unsuccessful := by
  rw [refusal?, if_neg hNew, if_pos ⟨hDown, hFails⟩]

/-- In a session that is up, only sharing can refuse a new process. -/
theorem refusal?_of_up (hUp : s.initialized = true) :
    refusal? env defaults headless s shared info = if shared then none else some .sharingViolation := by
  cases shared <;> simp [refusal?, hNew, hUp]

/-- Where bring-up succeeds, the first process is not refused. -/
theorem refusal?_of_not_fails (hDown : s.initialized = false)
    (hFails : ¬BringUp.Fails env defaults headless s info) :
    refusal? env defaults headless s shared info = none := by
  simp [refusal?, hNew, hDown, hFails]

end

/-- These three refusals are the only ones. -/
theorem status_of_refusal? {status : Status}
    (h : refusal? env defaults headless s shared info = some status) :
    status = .objectNameCollision ∨ status = .unsuccessful ∨ status = .sharingViolation := by
  simp only [refusal?] at h
  split at h
  · exact .inl (Option.some.inj h).symm
  · split at h
    · exact .inr (.inl (Option.some.inj h).symm)
    · split at h
      · exact .inr (.inr (Option.some.inj h).symm)
      · cases h

/-- A process is turned away exactly for the reasons there are, and told the first of them. -/
theorem Ends.status?_eq (ends : Ends env defaults headless issued s t info o)
    (consistent : s.Consistent) : o.status? = refusal? env defaults headless s s.permitsProcess info := by
  cases ends with
  | known hKnown =>
      rw [refusal?_of_mem hKnown]
      rfl
  | notUp hNew hUp =>
      obtain ⟨hDown, hFails, reason, rfl⟩ := (BringUp.ends_of_run consistent.sound hUp).fails_of_error rfl
      rw [refusal?_of_fails hNew hDown hFails]
      rfl
  | inputRefused hNew hUp hInput hRefused =>
      obtain ⟨event, input, output, buffer, window, hosts⟩ := consistent.up hUp
      cases hosts.input_eq.symm.trans hInput
      obtain ⟨_, hObject⟩ := (hosts.pins_iff _ _).2 (.inl ⟨rfl, rfl⟩)
      obtain ⟨rfl, hFull⟩ := Registry.not_permitsProcess_of_openHandle hObject hRefused
      rw [refusal?_of_up hNew hUp, Session.permitsProcess_eq hosts.input_eq hosts.activeOutput_eq, hFull]
      rfl
  | outputRefused hNew hUp hInput hOutput hOne hRefused =>
      obtain ⟨event, input, output, buffer, window, hosts⟩ := consistent.up hUp
      cases hosts.input_eq.symm.trans hInput
      cases hosts.activeOutput_eq.symm.trans hOutput
      obtain ⟨_, hObject⟩ :=
        (Registry.pins_openHandle hOne).2 ((hosts.pins_iff _ _).2 (.inr ⟨rfl, rfl⟩))
      obtain ⟨rfl, hFull⟩ := Registry.not_permitsProcess_of_openHandle hObject hRefused
      rw [Registry.permitsProcess_openHandle_of_ne hOne hosts.input_ne_output.symm] at hFull
      rw [refusal?_of_up hNew hUp, Session.permitsProcess_eq hInput hOutput, hFull, Bool.and_false]
      rfl
  | attached hNew hUp hInput hOutput hOne hTwo =>
      have ended := BringUp.ends_of_run consistent.sound hUp
      cases ended with
      | already hInitialized =>
          obtain ⟨event, input, output, buffer, window, hosts⟩ := consistent.up hInitialized
          cases hosts.input_eq.symm.trans hInput
          cases hosts.activeOutput_eq.symm.trans hOutput
          have hOnOutput := Registry.permitsProcess_of_openHandle hTwo
          rw [Registry.permitsProcess_openHandle_of_ne hOne hosts.input_ne_output.symm] at hOnOutput
          rw [refusal?_of_up hNew hInitialized, Session.permitsProcess_eq hInput hOutput,
            Registry.permitsProcess_of_openHandle hOne, hOnOutput]
          rfl
      | raised hDown hEvent hWindow =>
          have hNotFails := (BringUp.Ends.raised hDown hEvent hWindow).not_fails_of_ok rfl
          rw [refusal?_of_not_fails hNew hDown fun hFails => hNotFails ⟨hDown, hFails⟩]
          rfl

end Attach

end ConsoleHost
