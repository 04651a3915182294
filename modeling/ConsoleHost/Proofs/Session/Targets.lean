import ConsoleHost.Proofs.Session.Admission
import ConsoleHost.Proofs.Session.Open
import ConsoleHost.Proofs.Session.Persists

/-! What a create request is for, and what opening comes to. A request is for one of the two endpoints of the session,
or for an output buffer of its own, or it is unfit. An endpoint is opened unless a handle on it conflicts; a buffer is
always opened. -/

namespace ConsoleHost

namespace AccessMask

/-- A mask of a single bit leaves that bit or nothing. -/
theorem and_eq_ite {mask : UInt32} {i : Nat} (h : mask.toBitVec = BitVec.twoPow 32 i) (bits : UInt32) :
    bits &&& mask = if bits &&& mask != 0 then mask else 0 := by
  have hBits : (bits &&& mask).toBitVec = if bits.toBitVec.getLsbD i then mask.toBitVec else 0#32 := by
    rw [UInt32.toBitVec_and, h, BitVec.and_twoPow]
  by_cases hBit : bits.toBitVec.getLsbD i
  · rw [if_pos hBit] at hBits
    have hMask := UInt32.toBitVec_inj.1 hBits
    by_cases hZero : mask = 0
    · rw [hMask, hZero]
      rfl
    · rw [hMask, if_pos (by simpa using hZero)]
  · rw [if_neg hBit] at hBits
    rw [UInt32.toBitVec_inj.1 hBits]
    rfl

/-- What is left of an access once all bits but two are masked out. -/
theorem and_readWrite (a : AccessMask) :
    a.bits &&& readWrite.bits =
      (if a.reads then genericRead.bits else 0) ||| (if a.writes then genericWrite.bits else 0) := by
  have hRead := and_eq_ite (show genericRead.bits.toBitVec = BitVec.twoPow 32 31 by decide) a.bits
  have hWrite := and_eq_ite (show genericWrite.bits.toBitVec = BitVec.twoPow 32 30 by decide) a.bits
  calc
    a.bits &&& readWrite.bits = a.bits &&& (genericRead.bits ||| genericWrite.bits) := rfl
    _ = (a.bits &&& genericRead.bits) ||| (a.bits &&& genericWrite.bits) := by
      rw [← UInt32.toBitVec_inj]
      simp only [UInt32.toBitVec_and, UInt32.toBitVec_or, BitVec.and_or_distrib_left]
    _ = _ := by
      rw [hRead, hWrite, reads, writes]

/-- An access that asks for reading alone is the generic reading, among the two. -/
theorem and_readWrite_eq_read_iff (a : AccessMask) :
    a.bits &&& readWrite.bits = genericRead.bits ↔ a.reads = true ∧ a.writes = false := by
  rw [and_readWrite]
  cases a.reads <;> cases a.writes <;> decide

theorem and_readWrite_eq_write_iff (a : AccessMask) :
    a.bits &&& readWrite.bits = genericWrite.bits ↔ a.reads = false ∧ a.writes = true := by
  rw [and_readWrite]
  cases a.reads <;> cases a.writes <;> decide

end AccessMask

namespace CreateRequest

/-- Of reading and writing, a request asks for exactly this; its other access bits do not matter. -/
def AsksOnly (request : CreateRequest) (access : AccessMask) : Prop :=
  request.access.bits &&& AccessMask.readWrite.bits = access.bits

instance (request : CreateRequest) (access : AccessMask) : Decidable (request.AsksOnly access) := by
  unfold AsksOnly
  infer_instance

variable {request : CreateRequest}

/-- No request asks only to read and only to write. -/
theorem not_asksOnly_both (hRead : request.AsksOnly .genericRead) : ¬request.AsksOnly .genericWrite := by
  intro hWrite
  have hSame : AccessMask.genericRead.bits = AccessMask.genericWrite.bits := hRead.symm.trans hWrite
  exact absurd hSame (by decide)

/-- What a request for input is. -/
def ForInput (request : CreateRequest) : Prop :=
  request.type = .currentInput ∨ request.type = .generic ∧ request.AsksOnly .genericRead

def ForOutput (request : CreateRequest) : Prop :=
  request.type = .currentOutput ∨ request.type = .generic ∧ request.AsksOnly .genericWrite

/-- A generic request that asks neither just to read nor just to write. -/
def Ambiguous (request : CreateRequest) : Prop :=
  request.type = .generic ∧ ¬request.AsksOnly .genericRead ∧ ¬request.AsksOnly .genericWrite

/-- What a request can be settled as. -/
inductive Settles (request : CreateRequest) : Except Refusal ObjectType → Prop where
  | input (hFor : request.ForInput) : Settles request (.ok .currentInput)
  | output (hFor : request.ForOutput) : Settles request (.ok .currentOutput)
  | newOutput (hType : request.type = .newOutput) : Settles request (.ok .newOutput)
  | ambiguous {reason : String} (hAmbiguous : request.Ambiguous) : Settles request (.error (.invalidRequest reason))

/-- A request is settled as its type, or else its access, says. -/
theorem settles_resolve (request : CreateRequest) : request.Settles request.resolve := by
  have hRead : request.AsksOnly .genericRead ↔ _ := AccessMask.and_readWrite_eq_read_iff request.access
  have hWrite : request.AsksOnly .genericWrite ↔ _ := AccessMask.and_readWrite_eq_write_iff request.access
  cases hType : request.type with
  | currentInput =>
      simp only [resolve, hType]
      exact .input (.inl hType)
  | currentOutput =>
      simp only [resolve, hType]
      exact .output (.inl hType)
  | newOutput =>
      simp only [resolve, hType]
      exact .newOutput hType
  | generic =>
      cases hReads : request.access.reads <;> cases hWrites : request.access.writes
      all_goals
        simp only [resolve, hType, hReads, hWrites]
        simp only [hReads, hWrites] at hRead hWrite
      · exact .ambiguous ⟨hType, by simp [hRead], by simp [hWrite]⟩
      · exact .output (.inr ⟨hType, by simp [hWrite]⟩)
      · exact .input (.inr ⟨hType, by simp [hRead]⟩)
      · exact .ambiguous ⟨hType, by simp [hRead], by simp [hWrite]⟩

end CreateRequest

namespace Session

variable {s s' : Session} {request : CreateRequest} {handle : HandleId} {id other : ObjectId}

def endpoint (s : Session) : EndpointKind → Option ObjectId
  | .input => s.input
  | .output => s.activeOutput

/-- The endpoint of a kind depends on the two fields of the session alone. -/
theorem endpoint_congr (hInput : s'.input = s.input) (hOutput : s'.activeOutput = s.activeOutput)
    (kind : EndpointKind) : s'.endpoint kind = s.endpoint kind := by
  cases kind with
  | input => exact hInput
  | output => exact hOutput

/-- A request is for this endpoint of the session. -/
inductive Targets (s : Session) (request : CreateRequest) (id : ObjectId) : Prop where
  | input (hFor : request.ForInput) (hInput : s.input = some id) : Targets s request id
  | output (hFor : request.ForOutput) (hOutput : s.activeOutput = some id) : Targets s request id

/-- Some handle is open on what a request is for, and cannot live side by side with what it asks for. -/
def Conflicts (s : Session) (request : CreateRequest) : Prop :=
  ∃ g x, s.registry.handle? g = some x ∧ s.Targets request x.object ∧
    ¬Compatible request.access request.share x.access x.share

/-- Nothing can be opened for a request, whatever is open. -/
inductive Unfit (s : Session) (request : CreateRequest) : Prop where
  | down (hDown : s.initialized = false) : Unfit s request
  | flags (hType : request.type = .newOutput) (hFlags : request.bufferFlags ≠ 1) : Unfit s request
  | ambiguous (hAmbiguous : request.Ambiguous) : Unfit s request

/-- A request targets one object at most. -/
theorem Targets.unique (targets : s.Targets request id) (others : s.Targets request other) : id = other := by
  have hOne : request.ForInput → ¬request.ForOutput := by
    rintro (hInput | ⟨hGeneric, hRead⟩) (hOutput | ⟨hGeneric', hWrite⟩)
    · cases hInput.symm.trans hOutput
    · cases hInput.symm.trans hGeneric'
    · cases hGeneric.symm.trans hOutput
    · exact CreateRequest.not_asksOnly_both hRead hWrite
  cases targets with
  | input hFor hInput =>
      cases others with
      | input _ hInput' => exact Option.some.inj (hInput.symm.trans hInput')
      | output hFor' => exact absurd hFor' (hOne hFor)
  | output hFor hOutput =>
      cases others with
      | input hFor' => exact absurd hFor (hOne hFor')
      | output _ hOutput' => exact Option.some.inj (hOutput.symm.trans hOutput')

theorem Targets.type_ne (targets : s.Targets request id) : request.type ≠ .newOutput := by
  intro hType
  cases targets with
  | input hFor =>
      rcases hFor with hSettled | ⟨hGeneric, -⟩
      · cases hType.symm.trans hSettled
      · cases hType.symm.trans hGeneric
  | output hFor =>
      rcases hFor with hSettled | ⟨hGeneric, -⟩
      · cases hType.symm.trans hSettled
      · cases hType.symm.trans hGeneric

/-- A request that has a target is fit. -/
theorem Consistent.not_unfit (consistent : s.Consistent) (targets : s.Targets request id) : ¬s.Unfit request := by
  intro unfit
  cases unfit with
  | down hDown =>
      have down := consistent.down hDown
      cases targets with
      | input _ hInput => cases hInput.symm.trans down.input_eq
      | output _ hOutput => cases hOutput.symm.trans down.activeOutput_eq
  | flags hType => exact targets.type_ne hType
  | ambiguous hAmbiguous =>
      obtain ⟨hType, hRead, hWrite⟩ := hAmbiguous
      cases targets with
      | input hFor =>
          rcases hFor with hSettled | ⟨-, hAsks⟩
          · cases hType.symm.trans hSettled
          · exact hRead hAsks
      | output hFor =>
          rcases hFor with hSettled | ⟨-, hAsks⟩
          · cases hType.symm.trans hSettled
          · exact hWrite hAsks

/-- A request conflicts where its target does not admit it. -/
theorem conflicts_iff (targets : s.Targets request id) :
    s.Conflicts request ↔ ¬s.registry.Admits id request.access request.share := by
  constructor
  · rintro ⟨g, x, hHandle, others, hConflict⟩ admits
    exact hConflict (admits g x hHandle (others.unique targets))
  · intro hRefused
    simp only [Registry.Admits, not_forall] at hRefused
    obtain ⟨g, x, hHandle, rfl, hConflict⟩ := hRefused
    exact ⟨g, x, hHandle, targets, hConflict⟩

/-- While few handles were opened, the counts of a target tell whether a handle on it conflicts. -/
theorem Consistent.conflicts_iff_not_permits (consistent : s.Consistent) (few : s.registry.Few)
    (targets : s.Targets request id) {object : SessionObject} (hObject : s.registry.object? id = some object) :
    s.Conflicts request ↔ object.counts.permits request.access request.share = false := by
  rw [conflicts_iff targets, ← consistent.sound.permits_iff_admits few hObject, Bool.not_eq_true]

theorem Conflicts.exists_targets (conflicts : s.Conflicts request) : ∃ id, s.Targets request id := by
  obtain ⟨_, x, _, targets, _⟩ := conflicts
  exact ⟨x.object, targets⟩

/-- There is a target only in a session that is up. -/
theorem Consistent.initialized_of_targets (consistent : s.Consistent) (targets : s.Targets request id) :
    s.initialized = true := by
  cases hUp : s.initialized with
  | true => rfl
  | false => exact absurd (.down hUp) (consistent.not_unfit targets)

/-- An endpoint of the session is pinned. -/
theorem Consistent.pins_of_endpoint (consistent : s.Consistent) {kind : EndpointKind}
    (h : s.endpoint kind = some id) : ∃ endpoint, s.registry.Pins id endpoint := by
  rcases consistent.phase with ⟨event, input, output, buffer, window, hosts⟩ | down
  · cases kind with
    | input =>
        cases h.symm.trans hosts.input_eq
        exact ⟨_, (hosts.pins_iff _ _).2 (.inl ⟨rfl, rfl⟩)⟩
    | output =>
        cases h.symm.trans hosts.activeOutput_eq
        exact ⟨_, (hosts.pins_iff _ _).2 (.inr ⟨rfl, rfl⟩)⟩
  · cases kind with
    | input => cases h.symm.trans down.input_eq
    | output => cases h.symm.trans down.activeOutput_eq

/-- A target is one of the pinned endpoints. -/
theorem Consistent.pins_of_targets (consistent : s.Consistent) (targets : s.Targets request id) :
    ∃ endpoint, s.registry.Pins id endpoint := by
  cases targets with
  | input _ hInput => exact consistent.pins_of_endpoint (show s.endpoint .input = some id from hInput)
  | output _ hOutput => exact consistent.pins_of_endpoint (show s.endpoint .output = some id from hOutput)

/-- The endpoint that a generic request is for is the input exactly if it asks just to read, and the output exactly if
it asks just to write. -/
theorem Consistent.eq_some_iff_of_generic (consistent : s.Consistent) (targets : s.Targets request id)
    (hType : request.type = .generic) :
    (s.input = some id ↔ request.AsksOnly .genericRead) ∧
      (s.activeOutput = some id ↔ request.AsksOnly .genericWrite) := by
  obtain ⟨event, input, output, buffer, window, hosts⟩ := consistent.up (consistent.initialized_of_targets targets)
  have hNe := hosts.input_ne_output
  rw [hosts.input_eq, hosts.activeOutput_eq, Option.some.injEq, Option.some.injEq]
  cases targets with
  | input hFor hInput =>
      cases hosts.input_eq.symm.trans hInput
      rcases hFor with hSettled | ⟨-, hRead⟩
      · cases hType.symm.trans hSettled
      · exact ⟨iff_of_true rfl hRead, iff_of_false hNe.symm (CreateRequest.not_asksOnly_both hRead)⟩
  | output hFor hOutput =>
      cases hosts.activeOutput_eq.symm.trans hOutput
      rcases hFor with hSettled | ⟨-, hWrite⟩
      · cases hType.symm.trans hSettled
      · exact ⟨iff_of_false hNe fun hRead => CreateRequest.not_asksOnly_both hRead hWrite, iff_of_true rfl hWrite⟩

/-- Everything that opening for a request can come to. -/
inductive Outcome (s : Session) (request : CreateRequest) : Except Refusal HandleId × Session → Prop where
  | unfit {reason : String} (unfit : s.Unfit request) : Outcome s request (.error (.invalidRequest reason), s)
  | conflict {id : ObjectId} {object : SessionObject} (targets : s.Targets request id)
      (hObject : s.registry.object? id = some object)
      (hRefused : object.counts.permits request.access request.share = false) :
      Outcome s request (.error (.sharingViolation id.number), s)
  | endpoint {id : ObjectId} {object : SessionObject} {opened : Registry} (targets : s.Targets request id)
      (hObject : s.registry.object? id = some object)
      (hPermits : object.counts.permits request.access request.share = true)
      (hOpen : s.registry.openHandle id request.access request.share = (.ok s.registry.nextHandle, opened)) :
      Outcome s request (.ok s.registry.nextHandle, { s with registry := opened })
  | newOutput {buffer window : Size} {opened : Registry} (hFit : ¬s.Unfit request) (hType : request.type = .newOutput)
      (hSize : s.activeOutputSize? = some (buffer, window))
      (hOpen : (s.registry.create (.output buffer window) false).openHandle s.registry.nextObject
        request.access request.share = (.ok s.registry.nextHandle, opened)) :
      Outcome s request (.ok s.registry.nextHandle, { s with registry := opened })

/-- An endpoint that is there is opened, unless its counts stand against it. -/
theorem outcome_endpoint (targets : s.Targets request id) {object : SessionObject}
    (hObject : s.registry.object? id = some object) :
    s.Outcome request ((s.registry.openHandle id request.access request.share).1,
      { s with registry := (s.registry.openHandle id request.access request.share).2 }) := by
  cases hPermits : object.counts.permits request.access request.share with
  | false =>
      rw [Registry.openHandle_of_not_permits hObject hPermits]
      exact .conflict targets hObject hPermits
  | true =>
      rw [Registry.openHandle_of_permits hObject hPermits]
      exact .endpoint targets hObject hPermits (Registry.openHandle_of_permits hObject hPermits)

/-- Every request to open an object ends in one of the listed ways. -/
theorem Consistent.outcome_openObject (consistent : s.Consistent) (request : CreateRequest) :
    s.Outcome request (s.openObject request) := by
  cases hUp : s.initialized with
  | false =>
      simp only [openObject, hUp, ↓reduceIte]
      exact .unfit (.down hUp)
  | true =>
      obtain ⟨event, input, output, buffer, window, hosts⟩ := consistent.up hUp
      obtain ⟨_, hInput⟩ := (hosts.pins_iff input (.input event)).2 (.inl ⟨rfl, rfl⟩)
      obtain ⟨_, hOutput⟩ := (hosts.pins_iff output (.output buffer window)).2 (.inr ⟨rfl, rfl⟩)
      have settles := request.settles_resolve
      generalize hResolve : request.resolve = settled at settles
      cases settles with
      | input hFor =>
          have hResult : s.openObject request = ((s.registry.openHandle input request.access request.share).1,
              { s with registry := (s.registry.openHandle input request.access request.share).2 }) := by
            simp only [openObject, hUp, hResolve, hosts.input_eq, reduceCtorEq, ↓reduceIte]
          rw [hResult]
          exact outcome_endpoint (.input hFor hosts.input_eq) hInput
      | output hFor =>
          have hResult : s.openObject request = ((s.registry.openHandle output request.access request.share).1,
              { s with registry := (s.registry.openHandle output request.access request.share).2 }) := by
            simp only [openObject, hUp, hResolve, hosts.activeOutput_eq, reduceCtorEq, ↓reduceIte]
          rw [hResult]
          exact outcome_endpoint (.output hFor hosts.activeOutput_eq) hOutput
      | ambiguous hAmbiguous =>
          simp only [openObject, hUp, hResolve]
          exact .unfit (.ambiguous hAmbiguous)
      | newOutput hType =>
          by_cases hFlags : request.bufferFlags = CreateRequest.textMode
          · obtain ⟨opened, hOpen⟩ :=
              consistent.sound.openHandle_create (.output buffer window) false request.access request.share
            have hFit : ¬s.Unfit request := by
              intro unfit
              cases unfit with
              | down hDown => cases hUp.symm.trans hDown
              | flags _ hOther => exact hOther hFlags
              | ambiguous hAmbiguous => cases hType.symm.trans hAmbiguous.1
            have hResult : s.openObject request =
                (.ok s.registry.nextHandle, { s with registry := opened }) := by
              simp only [openObject, hUp, hResolve, hFlags, hosts.activeOutputSize?_eq, hOpen, reduceCtorEq,
                ↓reduceIte, ne_eq, not_true_eq_false]
            rw [hResult]
            exact .newOutput hFit hType hosts.activeOutputSize?_eq hOpen
          · have hResult : s.openObject request =
                (.error (.invalidRequest "only text-mode buffers are supported"), s) := by
              simp [openObject, hUp, hResolve, hFlags]
            rw [hResult]
            exact .unfit (.flags hType hFlags)

/-! What is there once a handle was opened. -/

/-- What a request gets: a handle with all the access and share bits it comes with, and the object that the handle is
on, with one opener more. -/
inductive Provides (s : Session) (request : CreateRequest) : IoHandle → SessionObject → Prop where
  | endpoint {id : ObjectId} {object : SessionObject} (targets : s.Targets request id)
      (hObject : s.registry.object? id = some object) :
      Provides s request ⟨id, object.endpoint.kind, request.access, request.share⟩
        { object with counts := object.counts.add request.access request.share }
  | newOutput {id : ObjectId} {buffer window : Size} (hType : request.type = .newOutput)
      (hSize : s.activeOutputSize? = some (buffer, window)) (hNew : s.registry.lastObject < id.number) :
      Provides s request ⟨id, .output, request.access, request.share⟩
        ⟨.output buffer window, SharingCounts.zero.add request.access request.share, false⟩

/-- A session with one handle more, as a request asks for it. Nothing else has changed. -/
structure Grants (s : Session) (request : CreateRequest) (handle : HandleId) (s' : Session) : Prop where
  rest_eq : s' = { s with registry := s'.registry }
  new : s.registry.lastHandle < handle.number
  provided : ∃ x object, s.Provides request x object ∧
    s'.registry.handles.entries = s.registry.handles.entries ++ [(handle, x)] ∧
    ∀ id, s'.registry.object? id = if id = x.object then some object else s.registry.object? id

/-- A request that succeeds opens the handle that it answers, as asked. -/
theorem Outcome.grants {opened : Session} (outcome : s.Outcome request (.ok handle, opened))
    (consistent : s.Consistent) : s.Grants request handle opened := by
  cases outcome with
  | endpoint targets hObject _ hOpen =>
      exact ⟨rfl, Nat.lt_succ_self _, _, _, .endpoint targets hObject, Registry.entries_openHandle hObject hOpen,
        Registry.object?_openHandle hObject hOpen⟩
  | @newOutput buffer window opened _ hType hSize hOpen =>
      have hCreated := consistent.sound.object?_create (.output buffer window) false
      have hObject := (hCreated s.registry.nextObject).trans (if_pos rfl)
      have hNew : s.registry.lastObject < s.registry.nextObject.number := Nat.lt_succ_self _
      refine ⟨rfl, Nat.lt_succ_self _, _, _, .newOutput hType hSize hNew,
        Registry.entries_openHandle hObject hOpen, fun id => ?_⟩
      rw [Registry.object?_openHandle hObject hOpen, hCreated]
      by_cases hSame : id = s.registry.nextObject
      · rw [if_pos hSame, if_pos hSame]
      · rw [if_neg hSame, if_neg hSame, if_neg hSame]

/-- A handle that is closed at once leaves no trace among the handles, nor among the objects: a buffer that was
created for it is gone again, and the counts of an endpoint are back while few handles were opened. -/
theorem Outcome.restores {opened : Session} (outcome : s.Outcome request (.ok handle, opened))
    (consistent : s.Consistent) :
    (opened.registry.discardHandle handle).handles = s.registry.handles ∧
      (opened.registry.discardHandle handle).outline = s.registry.outline ∧
      (request.type = .newOutput ∨ (opened.registry.discardHandle handle).Few →
        (opened.registry.discardHandle handle).objects = s.registry.objects) := by
  have sound := consistent.sound
  cases outcome with
  | endpoint targets hObject _ hOpen =>
      obtain ⟨endpoint, hPinned⟩ := consistent.pins_of_targets targets
      have restores := sound.restores_openHandle hObject hOpen
        (.inl ((Registry.pins_iff_of_object? hObject).1 hPinned).2)
      refine ⟨restores.handles_eq, restores.outline_eq, fun h => ?_⟩
      rw [restores.eq_spend sound (h.resolve_left targets.type_ne)]
      rfl
  | @newOutput buffer window opened _ _ _ hOpen =>
      have created := sound.create (.output buffer window) false
      have hObject := (sound.object?_create (.output buffer window) false s.registry.nextObject).trans (if_pos rfl)
      have hClosed := created.discardHandle_openHandle_of_free hObject hOpen rfl rfl
      have hErased : (s.registry.create (.output buffer window) false).objects.erase s.registry.nextObject =
          s.registry.objects := Table.erase_insert _ sound.nextObject_not_mem
      have hObjects := (congrArg Registry.objects hClosed).trans hErased
      have hHandles := congrArg Registry.handles hClosed
      exact ⟨hHandles, Registry.outline_congr hObjects, fun _ => hObjects⟩

end Session

end ConsoleHost
