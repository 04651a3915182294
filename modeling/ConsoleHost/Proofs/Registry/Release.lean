import ConsoleHost.Proofs.Registry.Sound

/-! Closing handles and letting go of objects. An object stays as long as it is pinned or somebody has it
open, whatever order the handles on it are closed in. -/

namespace ConsoleHost.Registry

variable {r : Registry} {id : HandleId} {h : IoHandle} {object : SessionObject}

/-- Closing an open handle answers what it was and discards it. -/
theorem closeHandle_of_open (hHandle : r.handle? id = some h) :
    r.closeHandle id = (.ok h, r.discardHandle id) := by
  simp [discardHandle, closeHandle, hHandle]

/-- Closing a handle that is not open is refused and changes nothing. -/
theorem closeHandle_of_not_open (hHandle : r.handle? id = none) :
    r.closeHandle id = (.error (.handleNotOpen id.number), r) := by
  simp [closeHandle, hHandle]

/-- Discarding an open handle takes it off the table and uncounts it on its object. -/
theorem discardHandle_of_open (hHandle : r.handle? id = some h) :
    r.discardHandle id = { r with handles := r.handles.erase id }.forgetOpener h := by
  simp [discardHandle, closeHandle, hHandle]

theorem discardHandle_of_not_open (hHandle : r.handle? id = none) : r.discardHandle id = r := by
  simp [discardHandle, closeHandle, hHandle]

@[simp] theorem handles_forgetOpener : (r.forgetOpener h).handles = r.handles := by
  simp only [forgetOpener]
  split
  · rfl
  · split <;> rfl

@[simp] theorem lastObject_forgetOpener : (r.forgetOpener h).lastObject = r.lastObject := by
  simp only [forgetOpener]
  split
  · rfl
  · split <;> rfl

@[simp] theorem lastHandle_forgetOpener : (r.forgetOpener h).lastHandle = r.lastHandle := by
  simp only [forgetOpener]
  split
  · rfl
  · split <;> rfl

@[simp] theorem handles_discardHandle : (r.discardHandle id).handles = r.handles.erase id := by
  cases hHandle : r.handle? id with
  | none =>
      rw [discardHandle_of_not_open hHandle, Table.erase_of_not_mem]
      exact (Table.get?_eq_none_iff _ _).1 hHandle
  | some h => rw [discardHandle_of_open hHandle, handles_forgetOpener]

@[simp] theorem lastObject_discardHandle : (r.discardHandle id).lastObject = r.lastObject := by
  cases hHandle : r.handle? id with
  | none => rw [discardHandle_of_not_open hHandle]
  | some h => rw [discardHandle_of_open hHandle, lastObject_forgetOpener]

@[simp] theorem lastHandle_discardHandle : (r.discardHandle id).lastHandle = r.lastHandle := by
  cases hHandle : r.handle? id with
  | none => rw [discardHandle_of_not_open hHandle]
  | some h => rw [discardHandle_of_open hHandle, lastHandle_forgetOpener]

/-- A discarded handle is gone, and the others are found as before. -/
theorem handle?_discardHandle (handle : HandleId) :
    (r.discardHandle id).handle? handle = if handle = id then none else r.handle? handle := by
  rw [handle?, handles_discardHandle]
  split
  · subst handle
    exact Table.get?_erase_self _ _
  · next hne => exact Table.get?_erase_of_ne _ hne

/-- A closed handle is gone from the handles on its object, and from no others. -/
theorem Sound.handlesOn_split (sound : r.Sound) (hHandle : r.handle? id = some h) :
    (∃ before after, r.handlesOn h.object = before ++ h :: after ∧
      (r.discardHandle id).handlesOn h.object = before ++ after) ∧
    ∀ other, other ≠ h.object → (r.discardHandle id).handlesOn other = r.handlesOn other := by
  obtain ⟨before, after, hAll, hErased, _⟩ :=
    sound.handles_distinct.split (Table.mem_entries_of_get? hHandle)
  simp only [handlesOn, handles_discardHandle, Table.values, hAll, hErased, List.map_append,
    List.map_cons, List.filter_append]
  refine ⟨⟨_, _, by rw [List.filter_cons_of_pos (by simp)], rfl⟩, fun other hOther => ?_⟩
  rw [List.filter_cons_of_neg (by simpa using Ne.symm hOther)]

/-- One object is released by a step: a handle on it is closed, or the session lets go of it. It is left
with these counts, and stays if they say that somebody has it open, or if it is pinned afterwards. -/
structure Release (r r' : Registry) (id : ObjectId) (object : SessionObject) (counts : SharingCounts)
    (pinned : Bool) : Prop where
  found : r.object? id = some object
  objects_eq : r'.objects =
    if counts.opens = 0 ∧ pinned = false then r.objects.erase id
    else r.objects.set id ⟨object.endpoint, counts, pinned⟩
  opens_le : counts.opens.toNat ≤ (r'.handlesOn id).length
  tallies : r.Accurate → counts.Tallies (r'.handlesOn id)
  handles_distinct : r'.handles.Distinct
  length_handles_le : r'.handles.entries.length ≤ r.handles.entries.length
  handle?_of_some : ∀ handle h, r'.handle? handle = some h → r.handle? handle = some h
  handlesOn_of_ne : ∀ other, other ≠ id → r'.handlesOn other = r.handlesOn other
  lastObject_eq : r'.lastObject = r.lastObject
  lastHandle_eq : r'.lastHandle = r.lastHandle

section

variable {r' : Registry} {released : ObjectId} {counts : SharingCounts} {pinned : Bool}

/-- The object that is released is destroyed once nothing holds it, and the others stay as they were. -/
theorem Release.object?_eq (release : Release r r' released object counts pinned) (other : ObjectId) :
    r'.object? other =
      if other = released then
        if counts.opens = 0 ∧ pinned = false then none else some ⟨object.endpoint, counts, pinned⟩
      else r.object? other := by
  rw [object?, release.objects_eq]
  by_cases hOther : other = released
  · subst hOther
    rw [if_pos rfl]
    split
    · exact Table.get?_erase_self _ _
    · exact Table.get?_set_self _ _ (Table.mem_keys_of_get? release.found)
  · rw [if_neg hOther]
    split
    · exact Table.get?_erase_of_ne _ hOther
    · exact Table.get?_set_of_ne _ _ hOther

theorem Release.mem_keys (release : Release r r' released object counts pinned) {other : ObjectId}
    (h : other ∈ r'.objects.keys) : other ∈ r.objects.keys := by
  rw [release.objects_eq] at h
  split at h
  · rw [Table.keys_erase] at h
    exact List.mem_of_mem_filter h
  · rwa [Table.keys_set] at h

/-- Where the counts are exact, the object goes exactly when nothing holds it any more. -/
theorem Release.opens_eq_zero_iff (release : Release r r' released object counts pinned)
    (accurate : r.Accurate) : counts.opens = 0 ↔ r'.handlesOn released = [] :=
  (release.tallies accurate).opens_eq_zero_iff

/-- A handle that is still open keeps its object alive. -/
theorem Release.handle_live (release : Release r r' released object counts pinned)
    (accurate : r.Accurate) {handle : HandleId} {x : IoHandle} (h : r'.handle? handle = some x) :
    ∃ object, r'.object? x.object = some object ∧ x.kind = object.endpoint.kind := by
  obtain ⟨found, hFound, hKind⟩ := accurate.handle_live handle x (release.handle?_of_some handle x h)
  rw [release.object?_eq]
  by_cases hSame : x.object = released
  · have hRest : r'.handlesOn released ≠ [] := by
      refine List.ne_nil_of_mem (a := x) ?_
      simp only [handlesOn, Table.values, List.mem_filter, decide_eq_true_eq]
      exact ⟨List.mem_map.2 ⟨_, Table.mem_entries_of_get? h, rfl⟩, hSame⟩
    rw [hSame, release.found] at hFound
    cases hFound
    rw [if_pos hSame, if_neg fun hGone => hRest ((release.opens_eq_zero_iff accurate).1 hGone.1)]
    exact ⟨_, rfl, hKind⟩
  · rw [if_neg hSame]
    exact ⟨found, hFound, hKind⟩

/-- A release keeps the counts accurate if it uncounts what it takes away. -/
theorem Release.accurate (release : Release r r' released object counts pinned)
    (accurate : r.Accurate) : r'.Accurate where
  handle_live _ _ h := release.handle_live accurate h
  tallies := by
    intro other found hFound
    rw [release.object?_eq] at hFound
    split at hFound
    · next hSame =>
        split at hFound
        · cases hFound
        · cases hFound
          rw [hSame]
          exact release.tallies accurate
    · next hOther =>
        rw [release.handlesOn_of_ne other hOther]
        exact accurate.tallies other found hFound

/-- A release keeps the registry sound. -/
theorem Release.sound (release : Release r r' released object counts pinned) (sound : r.Sound) :
    r'.Sound where
  objects_distinct := by
    rw [release.objects_eq]
    split
    · exact sound.objects_distinct.erase _
    · exact sound.objects_distinct.set _ _
  handles_distinct := release.handles_distinct
  object_le := by
    intro other hMem
    rw [release.lastObject_eq]
    exact sound.object_le other (release.mem_keys hMem)
  handle_le := by
    intro handle hMem
    obtain ⟨x, hx⟩ := Table.exists_get?_of_mem_keys hMem
    rw [release.lastHandle_eq]
    exact sound.handle_le handle (Table.mem_keys_of_get? (release.handle?_of_some handle x hx))
  target_le handle x hx := by
    rw [release.lastObject_eq]
    exact sound.target_le handle x (release.handle?_of_some handle x hx)
  length_handles_le := by
    rw [release.lastHandle_eq]
    exact Nat.le_trans release.length_handles_le sound.length_handles_le
  opens_le := by
    intro other found hFound
    rw [release.object?_eq] at hFound
    split at hFound
    · next hSame =>
        split at hFound
        · cases hFound
        · cases hFound
          rw [hSame]
          exact release.opens_le
    · next hOther =>
        rw [release.handlesOn_of_ne other hOther]
        exact sound.opens_le other found hFound
  accurate_of_few few :=
    release.accurate (sound.accurate_of_few (few.of_le (Nat.le_of_eq release.lastHandle_eq.symm)))

end

/-- Everything that closing an open handle does to its object. -/
theorem Sound.release_discardHandle (sound : r.Sound) (hHandle : r.handle? id = some h)
    (hObject : r.object? h.object = some object) :
    Release r (r.discardHandle id) h.object object (object.counts.remove h.access h.share)
      object.pinned where
  found := hObject
  objects_eq := by
    have hFound : { r with handles := r.handles.erase id }.object? h.object = some object := hObject
    conv_lhs => rw [discardHandle_of_open hHandle, forgetOpener, hFound]
    simp only
    split <;> rfl
  opens_le := by
    obtain ⟨⟨before, after, hAll, hRest⟩, _⟩ := sound.handlesOn_split hHandle
    have hLe := sound.opens_le h.object object hObject
    rw [hRest, SharingCounts.remove, SharingCounts.toNat_countDown, Bool.toNat_true]
    rw [hAll] at hLe
    simp only [List.length_append, List.length_cons] at hLe ⊢
    omega
  tallies accurate := by
    obtain ⟨⟨before, after, hAll, hRest⟩, _⟩ := sound.handlesOn_split hHandle
    have hTally := accurate.tallies h.object object hObject
    rw [hAll] at hTally
    rw [hRest]
    exact hTally.remove
  handles_distinct := by
    rw [handles_discardHandle]
    exact sound.handles_distinct.erase _
  length_handles_le := by
    rw [handles_discardHandle]
    exact List.length_filter_le _ _
  handle?_of_some := by
    intro handle x hx
    rw [handle?_discardHandle] at hx
    split at hx
    · cases hx
    · exact hx
  handlesOn_of_ne := (sound.handlesOn_split hHandle).2
  lastObject_eq := lastObject_discardHandle
  lastHandle_eq := lastHandle_discardHandle

/-- A handle whose object is gone leaves nothing else behind. -/
theorem discardHandle_of_no_object (hHandle : r.handle? id = some h) (hNone : r.object? h.object = none) :
    r.discardHandle id = { r with handles := r.handles.erase id } := by
  have hFound : { r with handles := r.handles.erase id }.object? h.object = none := hNone
  rw [discardHandle_of_open hHandle, forgetOpener, hFound]

/-- Objects that nobody has open are not touched when handles go. -/
theorem Sound.erase_handle (sound : r.Sound) (hHandle : r.handle? id = some h)
    (hNone : r.object? h.object = none) : { r with handles := r.handles.erase id }.Sound where
  objects_distinct := sound.objects_distinct
  handles_distinct := sound.handles_distinct.erase _
  object_le := sound.object_le
  handle_le other hMem := by
    rw [Table.keys_erase] at hMem
    exact sound.handle_le other (List.mem_of_mem_filter hMem)
  target_le other x hx := by
    rw [← discardHandle_of_no_object hHandle hNone, handle?_discardHandle] at hx
    split at hx
    · cases hx
    · exact sound.target_le other x hx
  length_handles_le := Nat.le_trans (List.length_filter_le _ _) sound.length_handles_le
  opens_le other found hFound := by
    have hNe : other ≠ h.object := by
      rintro rfl
      cases hFound.symm.trans hNone
    have hSame := (sound.handlesOn_split hHandle).2 other hNe
    rw [discardHandle_of_no_object hHandle hNone] at hSame
    rw [hSame]
    exact sound.opens_le other found hFound
  accurate_of_few few := by
    obtain ⟨object, hObject, _⟩ := (sound.accurate_of_few few).handle_live id h hHandle
    cases hObject.symm.trans hNone

theorem Sound.discardHandle (sound : r.Sound) (id : HandleId) : (r.discardHandle id).Sound := by
  cases hHandle : r.handle? id with
  | none =>
      rw [discardHandle_of_not_open hHandle]
      exact sound
  | some h =>
      cases hObject : r.object? h.object with
      | none =>
          rw [discardHandle_of_no_object hHandle hObject]
          exact sound.erase_handle hHandle hObject
      | some object => exact (sound.release_discardHandle hHandle hObject).sound sound

/-- Discarding a handle on one object leaves the others alone. -/
theorem Sound.object?_discardHandle_of_ne (sound : r.Sound) {other : ObjectId}
    (hOther : ∀ x, r.handle? id = some x → x.object ≠ other) :
    (r.discardHandle id).object? other = r.object? other := by
  cases hHandle : r.handle? id with
  | none => rw [discardHandle_of_not_open hHandle]
  | some h =>
      cases hObject : r.object? h.object with
      | none => rw [discardHandle_of_no_object hHandle hObject, object?, object?]
      | some object =>
          rw [(sound.release_discardHandle hHandle hObject).object?_eq, if_neg (hOther h hHandle).symm]

/-! Letting go of an object. -/

section

variable {id : ObjectId}

theorem unpin_of_none (h : r.object? id = none) : r.unpin id = r := by
  simp [unpin, h]

/-- An object without handles is destroyed when its pin goes. -/
theorem unpin_of_unopened (hObject : r.object? id = some object) (h : object.counts.opens = 0) :
    r.unpin id = { r with objects := r.objects.erase id } := by
  simp [unpin, hObject, h]

@[simp] theorem handles_unpin : (r.unpin id).handles = r.handles := by
  simp only [unpin]
  split
  · rfl
  · split <;> rfl

@[simp] theorem lastObject_unpin : (r.unpin id).lastObject = r.lastObject := by
  simp only [unpin]
  split
  · rfl
  · split <;> rfl

@[simp] theorem lastHandle_unpin : (r.unpin id).lastHandle = r.lastHandle := by
  simp only [unpin]
  split
  · rfl
  · split <;> rfl

@[simp] theorem handlesOn_unpin (other : ObjectId) :
    (r.unpin id).handlesOn other = r.handlesOn other := by
  rw [handlesOn, handles_unpin, handlesOn]

@[simp] theorem handle?_unpin (handle : HandleId) : (r.unpin id).handle? handle = r.handle? handle := by
  rw [handle?, handles_unpin, handle?]

/-- Everything that letting go of a live object does. -/
theorem Sound.release_unpin (sound : r.Sound) (hObject : r.object? id = some object) :
    Release r (r.unpin id) id object object.counts false where
  found := hObject
  objects_eq := by
    conv_lhs => rw [Registry.unpin, hObject]
    simp only [and_true]
    split <;> rfl
  opens_le := by
    rw [handlesOn_unpin]
    exact sound.opens_le id object hObject
  tallies accurate := by
    rw [handlesOn_unpin]
    exact accurate.tallies id object hObject
  handles_distinct := by
    rw [handles_unpin]
    exact sound.handles_distinct
  length_handles_le := Nat.le_of_eq (by rw [handles_unpin])
  handle?_of_some handle x hx := by rwa [handle?_unpin] at hx
  handlesOn_of_ne other _ := handlesOn_unpin other
  lastObject_eq := lastObject_unpin
  lastHandle_eq := lastHandle_unpin

theorem Sound.unpin (sound : r.Sound) (id : ObjectId) : (r.unpin id).Sound := by
  cases hObject : r.object? id with
  | none =>
      rw [unpin_of_none hObject]
      exact sound
  | some object => exact (sound.release_unpin hObject).sound sound

end

end ConsoleHost.Registry
