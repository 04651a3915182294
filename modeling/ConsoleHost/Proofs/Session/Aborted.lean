import ConsoleHost.Proofs.Calls
import ConsoleHost.Proofs.Session.Attach

/-! Connections that are aborted, before or after the process got through. What belongs to others is
spared: their records, handles and history buffers. A refusal does not move the session itself either. -/

namespace ConsoleHost

namespace Session

/-- What belongs to others is as it was: the records but for their foreground bits, all handles, the
objects with their counts, and the history buffers that are lent. Counts are as they were as long as their
words did not start again. -/
structure Spares (s s' : Session) : Prop where
  records_eq : s'.processes.setForeground false = s.processes.setForeground false
  handles_eq : s'.registry.handles = s.registry.handles
  lastHandle_le : s.registry.lastHandle ≤ s'.registry.lastHandle
  object?_of_some : ∀ id object, s.registry.object? id = some object →
    ∃ counts, s'.registry.object? id = some { object with counts := counts }
  object?_eq : s'.registry.Few → ∀ id object, s.registry.object? id = some object →
    s'.registry.object? id = some object
  lends_iff : ∀ (i : Nat) (b : HistoryBuffer), s'.histories.Lends i b ↔ s.histories.Lends i b

/-- The session is up or down as it was, with the same endpoints and objects. -/
structure Stands (s s' : Session) : Prop where
  initialized_eq : s'.initialized = s.initialized
  title_eq : s'.title = s.title
  input_eq : s'.input = s.input
  activeOutput_eq : s'.activeOutput = s.activeOutput
  lastHandle_le : s.registry.lastHandle ≤ s'.registry.lastHandle
  outline_eq : s'.registry.outline = s.registry.outline
  object?_eq : s'.registry.Few → ∀ id, s'.registry.object? id = s.registry.object? id

variable {s s' s'' : Session} {info : ConnectInfo} {registry : Registry} {handles : Nat}

/-- Changes that spare a session, one after the other, spare it. -/
theorem Spares.trans (first : s.Spares s') (second : s'.Spares s'') : s.Spares s'' where
  records_eq := second.records_eq.trans first.records_eq
  handles_eq := second.handles_eq.trans first.handles_eq
  lastHandle_le := Nat.le_trans first.lastHandle_le second.lastHandle_le
  object?_of_some id object h := by
    obtain ⟨counts, hMiddle⟩ := first.object?_of_some id object h
    exact second.object?_of_some id { object with counts := counts } hMiddle
  object?_eq few id object h :=
    second.object?_eq few id object (first.object?_eq (few.of_le second.lastHandle_le) id object h)
  lends_iff i b := (second.lends_iff i b).trans (first.lends_iff i b)

/-- Changes under which a session stands, one after the other, leave it standing. -/
theorem Stands.trans (first : s.Stands s') (second : s'.Stands s'') : s.Stands s'' where
  initialized_eq := second.initialized_eq.trans first.initialized_eq
  title_eq := second.title_eq.trans first.title_eq
  input_eq := second.input_eq.trans first.input_eq
  activeOutput_eq := second.activeOutput_eq.trans first.activeOutput_eq
  lastHandle_le := Nat.le_trans first.lastHandle_le second.lastHandle_le
  outline_eq := second.outline_eq.trans first.outline_eq
  object?_eq few id :=
    (second.object?_eq few id).trans (first.object?_eq (few.of_le second.lastHandle_le) id)

/-- Holding another wake event spares everything else. -/
theorem spares_wakeEvent (s : Session) (event : Option RawHandle) :
    s.Spares { s with wakeEvent := event } :=
  ⟨rfl, rfl, Nat.le_refl _, fun _ object h => ⟨object.counts, h⟩, fun _ _ _ h => h, fun _ _ => Iff.rfl⟩

theorem stands_wakeEvent (s : Session) (event : Option RawHandle) :
    s.Stands { s with wakeEvent := event } :=
  ⟨rfl, rfl, rfl, rfl, Nat.le_refl _, rfl, fun _ _ => rfl⟩

/-- Bring-up that stops behind the wake event spares everything else. -/
theorem spares_eventOnly (s : Session) (event : RawHandle) : s.Spares (s.eventOnly event) :=
  ⟨rfl, rfl, Nat.le_refl _, fun _ object h => ⟨object.counts, h⟩, fun _ _ _ h => h, fun _ _ => Iff.rfl⟩

theorem stands_eventOnly (s : Session) (event : RawHandle) : s.Stands (s.eventOnly event) :=
  ⟨rfl, rfl, rfl, rfl, Nat.le_refl _, rfl, fun _ _ => rfl⟩

/-- An admission that is undone spares the session it was made in. -/
theorem Consistent.spares_undone (consistent : s.Consistent) (hNew : info.pid ∉ s.processes.pids)
    (restores : s.registry.Restores registry handles) : s.Spares (s.undone info registry) where
  records_eq := by simp [Session.undone, ProcessTable.setForeground]
  handles_eq := restores.handles_eq
  lastHandle_le := Nat.le.intro restores.lastHandle_eq.symm
  object?_of_some _ _ h := restores.object?_of_some consistent.sound h
  object?_eq few _ _ h := by
    rw [Session.undone, restores.eq_spend consistent.sound few]
    exact h
  lends_iff i b := consistent.lent.lends_giveBack_request hNew i b

/-- A session that is up stands after an admission that is undone. -/
theorem Consistent.stands_undone (consistent : s.Consistent) (info : ConnectInfo)
    (restores : s.registry.Restores registry handles) : s.Stands (s.undone info registry) where
  initialized_eq := rfl
  title_eq := rfl
  input_eq := rfl
  activeOutput_eq := rfl
  lastHandle_le := Nat.le.intro restores.lastHandle_eq.symm
  outline_eq := restores.outline_eq
  object?_eq few _ := by
    rw [Session.undone, restores.eq_spend consistent.sound few]
    rfl

/-- The endpoints of a session that is brought up are new. -/
theorem Consistent.object?_raised (consistent : s.Consistent) (event : RawHandle) (buffer window : Size)
    (title : String) {id : ObjectId} {object : SessionObject} (hObject : s.registry.object? id = some object) :
    (s.raised event buffer window title).registry.object? id = some object := by
  have sound := consistent.sound.create (.input event) true
  have hWithInput : (s.registry.create (.input event) true).object? id = some object := by
    rw [consistent.sound.object?_create, if_neg, hObject]
    rintro rfl
    rw [consistent.sound.object?_nextObject] at hObject
    cases hObject
  rw [Session.raised, sound.object?_create, if_neg, hWithInput]
  rintro rfl
  rw [sound.object?_nextObject] at hWithInput
  cases hWithInput

/-- Raising a session spares the records, the handles and the histories. -/
theorem Consistent.spares_raised (consistent : s.Consistent) (event : RawHandle)
    (buffer window : Size) (title : String) : s.Spares (s.raised event buffer window title) :=
  ⟨rfl, rfl, Nat.le_refl _,
    fun _ object h => ⟨object.counts, consistent.object?_raised event buffer window title h⟩,
    fun _ _ _ h => consistent.object?_raised event buffer window title h, fun _ _ => Iff.rfl⟩

/-- The session is up, and nobody has its endpoints open. -/
def Unattended (s : Session) : Prop :=
  ∃ event input output buffer window, s.Hosts event input output buffer window ∧
    s.registry.handlesOn input = [] ∧ s.registry.handlesOn output = []

/-- A connection that brought the session up leaves it up, with endpoints that nobody has open. -/
theorem Consistent.unattended_undone_raised (consistent : s.Consistent) (h : s.initialized = false)
    (event : RawHandle) (buffer window : Size) (title : String)
    (restores : (s.raised event buffer window title).registry.Restores registry handles) :
    ((s.raised event buffer window title).undone info registry).Unattended := by
  have raised := consistent.raised h event buffer window title
  have up : ((s.raised event buffer window title).undone info registry).Up :=
    (raised.up rfl).congr rfl rfl rfl rfl (restores.continues raised.sound raised.held)
  obtain ⟨event', input, output, buffer', window', hosts⟩ := up
  have sound := consistent.sound.create (.input event) true
  have hOn (id : ObjectId) : registry.handlesOn id = s.registry.handlesOn id := by
    rw [Registry.handlesOn, restores.handles_eq]
    rfl
  refine ⟨event', input, output, buffer', window', hosts, ?_, ?_⟩
  · cases hosts.input_eq
    exact (hOn _).trans consistent.sound.handlesOn_nextObject
  · cases hosts.activeOutput_eq
    exact (hOn _).trans sound.handlesOn_nextObject

end Session

open Call

namespace BringUp

variable {env : Environment} {defaults : SessionDefaults} {headless : Bool} {issued : Nat}
  {s : Session} {info : ConnectInfo} {o : Outcome}

/-- Bring-up reaches nobody. -/
theorem Ends.reaching_calls (ends : Ends env defaults headless issued s info o) :
    reaching o.calls = [] := by
  have hHold := reaching_holdWakeEvent env.system issued s
  have hOpen := reaching_openWindow env headless (title defaults info) (windowSize defaults info)
  cases ends with
  | already => rfl
  | noEvent hDown hEvent => simpa [hEvent] using hHold
  | noWindow hDown hEvent hWindow =>
      rw [hEvent] at hHold
      rw [hWindow] at hOpen
      simp [hHold, hOpen]
  | raised hDown hEvent hWindow =>
      rw [hEvent] at hHold
      rw [hWindow] at hOpen
      simp [hHold, hOpen]

/-- A bring-up that fails spares everything, and leaves the session down. -/
theorem Ends.spares_of_error {refusal : Refusal} (ends : Ends env defaults headless issued s info o)
    (h : o.result = .error refusal) : s.Spares o.session ∧ s.Stands o.session := by
  cases ends with
  | already => cases h
  | noEvent => exact ⟨s.spares_wakeEvent _, s.stands_wakeEvent _⟩
  | noWindow => exact ⟨s.spares_eventOnly _, s.stands_eventOnly _⟩
  | raised => cases h

end BringUp

namespace Attach

variable {env : Environment} {defaults : SessionDefaults} {headless : Bool} {issued : Nat}
  {s : Session} {t : Loopback} {info : ConnectInfo} {o : Outcome}

@[simp] theorem reaching_greeting : reaching (greeting env info) = [] := by
  simp [greeting]

@[simp] theorem reaching_rights {u : Session} {record : ProcessRecord} :
    reaching (rights env u info record) = [] :=
  env.reaching_controlCalls ..

/-- A process that is refused leaves nothing behind, and no client gets to see anything of it. -/
theorem Ends.aborted {refusal : Refusal} (ends : Ends env defaults headless issued s t info o)
    (consistent : s.Consistent) (hNew : info.pid ∉ s.processes.pids) (h : o.result = .error refusal) :
    s.Spares o.session ∧ s.Stands o.session ∧ o.transport = t ∧ reaching o.calls = [] := by
  cases ends with
  | known hKnown => exact absurd hKnown hNew
  | notUp _ hUp =>
      have ended := BringUp.ends_of_run consistent.sound hUp
      obtain ⟨spares, stands⟩ := ended.spares_of_error rfl
      have hCalls := ended.reaching_calls
      exact ⟨spares, stands, rfl, by simp [hCalls]⟩
  | inputRefused =>
      have restores := consistent.sound.restores
      exact ⟨consistent.spares_undone hNew restores, consistent.stands_undone info restores, rfl, by simp⟩
  | outputRefused _ _ _ _ _ _ restores =>
      exact ⟨consistent.spares_undone hNew restores, consistent.stands_undone info restores, rfl, by simp⟩
  | attached => cases h

/-- An attach that fails leaves a session up or down as it found it. -/
theorem Ends.initialized_of_error {o : Outcome} {refusal : Refusal}
    (ends : Ends env defaults headless issued s t info o) (consistent : s.Consistent)
    (h : o.result = .error refusal) : o.session.initialized = s.initialized := by
  cases ends with
  | known => rfl
  | notUp _ hUp => exact ((BringUp.ends_of_run consistent.sound hUp).spares_of_error rfl).2.initialized_eq
  | inputRefused => rfl
  | outputRefused => rfl
  | attached => cases h

/-- While a process is attached, clients see nothing but what is published for it. -/
theorem Ends.publishes (ends : Ends env defaults headless issued s t info o)
    (sound : s.registry.Sound) {call : Call} (hMem : call ∈ reaching o.calls) :
    ∃ what token, call = .publish what token := by
  cases ends with
  | known => cases hMem
  | notUp _ hUp =>
      have hCalls := (BringUp.ends_of_run sound hUp).reaching_calls
      simp [hCalls] at hMem
  | inputRefused => simp at hMem
  | outputRefused => simp at hMem
  | attached _ hUp _ _ _ _ hPublished =>
      -- Only the publications are left once every other source of calls is filtered out.
      have hCalls := (BringUp.ends_of_run sound hUp).reaching_calls
      subst hPublished
      simp only [reaching_append, reaching_greeting, hCalls, reaching_rights, List.nil_append] at hMem
      have hListed := (mem_reaching.1 hMem).1
      simp only [Loopback.publishConnection, List.mem_cons, List.not_mem_nil, or_false] at hListed
      rcases hListed with rfl | rfl | rfl
      · exact ⟨_, _, rfl⟩
      · exact ⟨_, _, rfl⟩
      · exact ⟨_, _, rfl⟩

/-- A process that got through is removed again with its history buffer and both its handles. -/
theorem rollback_attached {u : Session} {input output : ObjectId} {one two : Registry} {token : Nat}
    (consistent : u.Consistent) (up : u.Up) (hNew : info.pid ∉ u.processes.pids)
    (hInput : u.input = some input) (hOutput : u.activeOutput = some output)
    (hOne : u.registry.openHandle input .readWrite .all = (.ok u.registry.nextHandle, one))
    (hTwo : one.openHandle output .readWrite .all = (.ok one.nextHandle, two)) :
    ∃ closed, u.registry.Restores closed 2 ∧
      (u.withProcess info (joined s u info u.registry.nextHandle one.nextHandle token) two).rollback
        info.pid = u.undone info closed := by
  obtain ⟨event, _, _, buffer, window, hosts⟩ := up
  cases hosts.input_eq.symm.trans hInput
  cases hosts.activeOutput_eq.symm.trans hOutput
  exact ⟨_, consistent.sound.restores_pair ((hosts.pins_iff _ _).2 (.inl ⟨rfl, rfl⟩))
    ((hosts.pins_iff _ _).2 (.inr ⟨rfl, rfl⟩)) hOne hTwo, Session.rollback_withProcess hNew rfl⟩

/-- A process that got through and is removed again leaves nothing behind either, but a session that was
brought up for it stays up. -/
theorem Ends.undelivered {tokens : ConnectionTokens}
    (ends : Ends env defaults headless issued s t info o) (consistent : s.Consistent)
    (h : o.result = .ok tokens) :
    s.Spares (o.session.rollback info.pid) ∧
      (s.initialized = true → s.Stands (o.session.rollback info.pid)) ∧
      (s.initialized = false → (o.session.rollback info.pid).Unattended) := by
  cases ends with
  | known => cases h
  | notUp => cases h
  | inputRefused => cases h
  | outputRefused => cases h
  | attached hNew hUp hInput hOutput hOne hTwo =>
      have ended := BringUp.ends_of_run consistent.sound hUp
      have up := ended.consistent consistent
      have hHere := ended.processes_eq ▸ hNew
      obtain ⟨closed, restores, hRolledBack⟩ :=
        rollback_attached up (up.up (ended.initialized_of_ok rfl)) hHere hInput hOutput hOne hTwo
      rw [hRolledBack]
      cases ended with
      | already hInitialized =>
          refine ⟨consistent.spares_undone hNew restores, fun _ => consistent.stands_undone info restores,
            fun hDown => ?_⟩
          cases hInitialized.symm.trans hDown
      | raised hDown =>
          refine ⟨(consistent.spares_raised ..).trans (up.spares_undone hHere restores),
            fun hInitialized => ?_, fun _ => consistent.unattended_undone_raised hDown _ _ _ _ restores⟩
          cases hInitialized.symm.trans hDown

end Attach

end ConsoleHost
