import ConsoleHost.Proofs.Registry.Undo

/-! Registries that arise from the empty one by any sequence of operations. Every operation keeps them
sound, and the identifiers tell how many handles were opened. -/

namespace ConsoleHost.Registry

inductive Operation where
  | create (endpoint : Endpoint) (pinned : Bool)
  | unpin (id : ObjectId)
  | openHandle (id : ObjectId) (access : AccessMask) (share : ShareMode)
  | closeHandle (id : HandleId)

def apply (r : Registry) : Operation → Registry
  | .create endpoint pinned => r.create endpoint pinned
  | .unpin id => r.unpin id
  | .openHandle id access share => (r.openHandle id access share).2
  | .closeHandle id => (r.closeHandle id).2

def after (r : Registry) (ops : List Operation) : Registry := ops.foldl apply r

def run (ops : List Operation) : Registry := empty.after ops

/-- An operation opens a handle, in a registry that admits it. -/
def opens (r : Registry) : Operation → Bool
  | .openHandle id access share => (r.openHandle id access share).1.isOk
  | _ => false

def opened : Registry → List Operation → Nat
  | _, [] => 0
  | r, op :: ops => (r.opens op).toNat + opened (r.apply op) ops

variable {r : Registry}

theorem after_cons (op : Operation) (ops : List Operation) :
    r.after (op :: ops) = (r.apply op).after ops := rfl

/-- Operations one list after the other are those of both lists. -/
theorem after_append (first second : List Operation) :
    r.after (first ++ second) = (r.after first).after second :=
  List.foldl_append

theorem run_append (first second : List Operation) :
    run (first ++ second) = (run first).after second :=
  after_append first second

/-- Every operation keeps the registry sound. -/
theorem Sound.apply (sound : r.Sound) (op : Operation) : (r.apply op).Sound := by
  cases op with
  | create endpoint pinned => exact sound.create endpoint pinned
  | unpin id => exact sound.unpin id
  | openHandle id access share =>
      obtain ⟨refusal, h⟩ | ⟨opened, h⟩ := r.openHandle_cases id access share
      · rwa [Registry.apply, h]
      · rw [Registry.apply, h]
        exact sound.openHandle h
  | closeHandle id => exact sound.discardHandle id

/-- A sound registry stays so over any operations. -/
theorem Sound.after (sound : r.Sound) (ops : List Operation) : (r.after ops).Sound := by
  induction ops generalizing r with
  | nil => exact sound
  | cons op ops ih => exact ih (sound.apply op)

theorem sound_run (ops : List Operation) : (run ops).Sound := sound_empty.after ops

/-- An operation closes no handle but the one it names. -/
theorem Sound.handle?_apply_of_some (sound : r.Sound) {op : Operation} {handle : HandleId}
    {x : IoHandle} (hHandle : r.handle? handle = some x) (hOp : op ≠ .closeHandle handle) :
    (r.apply op).handle? handle = some x := by
  cases op with
  | create endpoint pinned => exact hHandle
  | unpin id => rwa [Registry.apply, handle?_unpin]
  | openHandle id access share =>
      obtain ⟨refusal, h⟩ | ⟨opened, h⟩ := r.openHandle_cases id access share
      · rwa [Registry.apply, h]
      · obtain ⟨object, hObject, _⟩ := eq_of_openHandle h
        rw [Registry.apply, h, handle?_openHandle sound hObject h, if_neg, hHandle]
        intro hNew
        rw [hNew, sound.handle?_nextHandle] at hHandle
        cases hHandle
  | closeHandle id =>
      refine (handle?_discardHandle handle).trans ((if_neg ?_).trans hHandle)
      rintro rfl
      exact hOp rfl

/-! Identifiers that were given out. -/

/-- A handle gets a number exactly when it is opened. -/
theorem lastHandle_apply (op : Operation) :
    (r.apply op).lastHandle = r.lastHandle + (r.opens op).toNat := by
  cases op with
  | create endpoint pinned => rfl
  | unpin id => exact lastHandle_unpin
  | openHandle id access share =>
      obtain ⟨refusal, h⟩ | ⟨opened, h⟩ := r.openHandle_cases id access share
      · simp [Registry.apply, opens, h, Except.isOk, Except.toBool]
      · simp [Registry.apply, opens, h, Except.isOk, Except.toBool, lastHandle_openHandle h]
  | closeHandle id => exact lastHandle_discardHandle

/-- The counter of handles goes up by one with every open that succeeds. -/
theorem lastHandle_after (ops : List Operation) :
    (r.after ops).lastHandle = r.lastHandle + r.opened ops := by
  induction ops generalizing r with
  | nil => rfl
  | cons op ops ih => rw [after_cons, ih, lastHandle_apply, opened, Nat.add_assoc]

/-- A run with fewer opens than a 32-bit number counts has few handles. -/
theorem few_run {ops : List Operation} (few : empty.opened ops < UInt32.size) : (run ops).Few := by
  have hLast : (run ops).lastHandle = empty.lastHandle + empty.opened ops := lastHandle_after ops
  rwa [Few, hLast, empty, Nat.zero_add]

/-- No identifier is given out that does not lie behind all those given out before. -/
theorem last_le_apply (op : Operation) :
    r.lastObject ≤ (r.apply op).lastObject ∧ r.lastHandle ≤ (r.apply op).lastHandle := by
  refine ⟨?_, by rw [lastHandle_apply]; exact Nat.le_add_right _ _⟩
  cases op with
  | create endpoint pinned => exact Nat.le_succ _
  | unpin id => exact Nat.le_of_eq lastObject_unpin.symm
  | openHandle id access share =>
      obtain ⟨refusal, h⟩ | ⟨opened, h⟩ := r.openHandle_cases id access share
      · simp only [Registry.apply, h, Nat.le_refl]
      · simp only [Registry.apply, h, lastObject_openHandle h, Nat.le_refl]
  | closeHandle id => exact Nat.le_of_eq lastObject_discardHandle.symm

/-- Identifiers are never taken back. -/
theorem last_le_after (ops : List Operation) :
    r.lastObject ≤ (r.after ops).lastObject ∧ r.lastHandle ≤ (r.after ops).lastHandle := by
  induction ops generalizing r with
  | nil => exact ⟨Nat.le_refl _, Nat.le_refl _⟩
  | cons op ops ih =>
      obtain ⟨hObject, hHandle⟩ := last_le_apply (r := r) op
      obtain ⟨hObjects, hHandles⟩ := ih (r := r.apply op)
      exact ⟨Nat.le_trans hObject hObjects, Nat.le_trans hHandle hHandles⟩

/-- An identifier that was given out and is not open stays closed in the next step. -/
theorem Sound.handle?_apply_of_none (sound : r.Sound) {handle : HandleId}
    (hGiven : handle.number ≤ r.lastHandle) (hNone : r.handle? handle = none) (op : Operation) :
    (r.apply op).handle? handle = none := by
  cases op with
  | create endpoint pinned => exact hNone
  | unpin id => rwa [Registry.apply, handle?_unpin]
  | openHandle id access share =>
      obtain ⟨refusal, h⟩ | ⟨opened, h⟩ := r.openHandle_cases id access share
      · rwa [Registry.apply, h]
      · obtain ⟨object, hObject, _⟩ := eq_of_openHandle h
        rw [Registry.apply, h, handle?_openHandle sound hObject h, if_neg, hNone]
        rintro rfl
        exact Nat.not_succ_le_self _ hGiven
  | closeHandle id => exact (handle?_discardHandle handle).trans (by rw [hNone, ite_self])

/-- A handle that was issued and is gone never comes back. -/
theorem Sound.handle?_after_of_none (sound : r.Sound) {handle : HandleId}
    (hGiven : handle.number ≤ r.lastHandle) (hNone : r.handle? handle = none)
    (ops : List Operation) : (r.after ops).handle? handle = none := by
  induction ops generalizing r with
  | nil => exact hNone
  | cons op ops ih =>
      exact ih (sound.apply op) (Nat.le_trans hGiven (last_le_apply op).2)
        (sound.handle?_apply_of_none hGiven hNone op)

/-- A release takes an object away or leaves it; it brings none back. -/
theorem Release.object?_of_none {r' : Registry} {id other : ObjectId} {object : SessionObject}
    {counts : SharingCounts} {pinned : Bool} (release : Release r r' id object counts pinned) (hNone : r.object? other = none) :
    r'.object? other = none := by
  rw [release.object?_eq, if_neg, hNone]
  rintro rfl
  rw [release.found] at hNone
  cases hNone

/-- An object that is gone stays away in the next step. -/
theorem Sound.object?_apply_of_none (sound : r.Sound) {id : ObjectId}
    (hGiven : id.number ≤ r.lastObject) (hNone : r.object? id = none) (op : Operation) :
    (r.apply op).object? id = none := by
  cases op with
  | create endpoint pinned =>
      rw [Registry.apply, sound.object?_create, if_neg, hNone]
      rintro rfl
      exact Nat.not_succ_le_self _ hGiven
  | unpin other =>
      cases hObject : r.object? other with
      | none => rwa [Registry.apply, unpin_of_none hObject]
      | some object => exact (sound.release_unpin hObject).object?_of_none hNone
  | openHandle other access share =>
      obtain ⟨refusal, h⟩ | ⟨opened, h⟩ := r.openHandle_cases other access share
      · rwa [Registry.apply, h]
      · obtain ⟨object, hObject, _⟩ := eq_of_openHandle h
        rw [Registry.apply, h, object?_openHandle hObject h, if_neg, hNone]
        rintro rfl
        rw [hObject] at hNone
        cases hNone
  | closeHandle handle =>
      cases hHandle : r.handle? handle with
      | none => exact (congrArg (object? · id) (discardHandle_of_not_open hHandle)).trans hNone
      | some h =>
          cases hObject : r.object? h.object with
          | none => exact (congrArg (object? · id) (discardHandle_of_no_object hHandle hObject)).trans hNone
          | some object => exact (sound.release_discardHandle hHandle hObject).object?_of_none hNone

/-- An object that was created and is gone never comes back. -/
theorem Sound.object?_after_of_none (sound : r.Sound) {id : ObjectId}
    (hGiven : id.number ≤ r.lastObject) (hNone : r.object? id = none) (ops : List Operation) :
    (r.after ops).object? id = none := by
  induction ops generalizing r with
  | nil => exact hNone
  | cons op ops ih =>
      exact ih (sound.apply op) (Nat.le_trans hGiven (last_le_apply op).1)
        (sound.object?_apply_of_none hGiven hNone op)

end ConsoleHost.Registry
