import ConsoleHost.Proofs.Registry.Release

/-! Steps that are taken back. Closing what was just opened, and letting go of what was just created,
restores all objects and handles; only the identifiers stay used up. -/

namespace ConsoleHost.Registry

variable {r : Registry} {id : ObjectId} {object : SessionObject} {access : AccessMask}
  {share : ShareMode}

/-- The registry with identifiers used up by objects and handles that are gone again. -/
def spend (r : Registry) (objects handles : Nat) : Registry :=
  { r with lastObject := r.lastObject + objects, lastHandle := r.lastHandle + handles }

theorem Sound.spend (sound : r.Sound) (objects handles : Nat) : (r.spend objects handles).Sound where
  objects_distinct := sound.objects_distinct
  handles_distinct := sound.handles_distinct
  object_le id h := Nat.le_add_right_of_le (sound.object_le id h)
  handle_le id h := Nat.le_add_right_of_le (sound.handle_le id h)
  target_le id h hHandle := Nat.le_add_right_of_le (sound.target_le id h hHandle)
  length_handles_le := Nat.le_add_right_of_le sound.length_handles_le
  opens_le := sound.opens_le
  accurate_of_few few :=
    have accurate := sound.accurate_of_few (few.of_le (Nat.le_add_right _ _))
    ⟨accurate.handle_live, accurate.tallies⟩

/-- The objects without their counts, oldest first. -/
def outline (r : Registry) : List (ObjectId × Endpoint × Bool) :=
  r.objects.entries.map fun e => (e.1, e.2.endpoint, e.2.pinned)

theorem outline_congr {r' : Registry} (h : r'.objects = r.objects) : r'.outline = r.outline := by
  rw [outline, h, outline]

/-- Exact counts follow from the handles, so the outline and the handles say all there is to know. -/
theorem Sound.entries_eq (sound : r.Sound) (accurate : r.Accurate) :
    r.objects.entries = r.outline.map fun e => (e.1, ⟨e.2.1, .tally (r.handlesOn e.1), e.2.2⟩) := by
  rw [outline, List.map_map]
  conv_lhs => rw [← List.map_id r.objects.entries]
  refine List.map_congr_left fun e he => ?_
  obtain ⟨id, object⟩ := e
  have hCounts := (accurate.tallies id object (sound.objects_distinct.get?_of_mem he)).eq_tally
  simp only [id_eq, Function.comp_apply, ← hCounts]

/-- With accurate counts, the outline and the handles determine the objects. -/
theorem Sound.objects_eq_of_outline {s : Registry} (sound : r.Sound) (accurate : r.Accurate)
    (sound' : s.Sound) (accurate' : s.Accurate) (hOutline : r.outline = s.outline)
    (hHandles : r.handles = s.handles) : r.objects = s.objects := by
  have hOn (id : ObjectId) : r.handlesOn id = s.handlesOn id := by
    rw [handlesOn, handlesOn, hHandles]
  refine congrArg Table.mk ?_
  rw [sound.entries_eq accurate, sound'.entries_eq accurate', hOutline]
  simp only [hOn]

/-- Whatever is done to the counts of an object, the outline keeps its endpoint and its pin. -/
theorem Sound.outline_set (sound : r.Sound) (hObject : r.object? id = some object)
    (counts : SharingCounts) (handles : Table HandleId IoHandle) (lastHandle : Nat) :
    outline ⟨r.objects.set id { object with counts := counts }, handles, r.lastObject, lastHandle⟩ =
      r.outline := by
  obtain ⟨before, after, hAll, _, hSet⟩ :=
    sound.objects_distinct.split (Table.mem_entries_of_get? hObject)
  rw [outline, outline, hSet, hAll, List.map_append, List.map_append]
  rfl

/-- Opening a handle changes the counts alone. -/
theorem Sound.outline_openHandle {r' : Registry} {handle : HandleId} (sound : r.Sound)
    (h : r.openHandle id access share = (.ok handle, r')) : r'.outline = r.outline := by
  obtain ⟨object, hObject, _, rfl⟩ := eq_of_openHandle h
  exact sound.outline_set hObject _ _ _

/-- A release that the object survives takes at most its pin away. -/
theorem Release.outline_eq {r' : Registry} {counts : SharingCounts} (sound : r.Sound)
    (release : Release r r' id object counts object.pinned)
    (hStays : ¬(counts.opens = 0 ∧ object.pinned = false)) : r'.outline = r.outline := by
  have hEq := release.objects_eq
  rw [if_neg hStays] at hEq
  rw [outline, hEq]
  exact sound.outline_set release.found _ r.handles r.lastHandle

section

variable {r' : Registry} {handle : HandleId}

theorem handles_openHandle (h : r.openHandle id access share = (.ok handle, r')) :
    ∃ x : IoHandle, x.object = id ∧ r'.handles = r.handles.insert r.nextHandle x := by
  obtain ⟨object, _, _, rfl⟩ := eq_of_openHandle h
  exact ⟨_, rfl, rfl⟩

/-- Opening a handle and discarding it leaves the table as it was. -/
theorem Sound.handles_discardHandle_openHandle (sound : r.Sound)
    (h : r.openHandle id access share = (.ok handle, r')) :
    (r'.discardHandle r.nextHandle).handles = r.handles := by
  obtain ⟨x, _, hHandles⟩ := handles_openHandle h
  rw [handles_discardHandle, hHandles, Table.erase_insert _ sound.nextHandle_not_mem]

theorem Sound.handlesOn_discardHandle_openHandle (sound : r.Sound)
    (h : r.openHandle id access share = (.ok handle, r')) (other : ObjectId) :
    (r'.discardHandle r.nextHandle).handlesOn other = r.handlesOn other := by
  rw [handlesOn, sound.handles_discardHandle_openHandle h, handlesOn]

/-- Everything that closing the handle that was opened last does to its object. -/
theorem Sound.release_openHandle (sound : r.Sound) (hObject : r.object? id = some object)
    (h : r.openHandle id access share = (.ok handle, r')) :
    Release r' (r'.discardHandle r.nextHandle) id { object with counts := object.counts.add access share }
      ((object.counts.add access share).remove access share) object.pinned :=
  (sound.openHandle h).release_discardHandle
    ((handle?_openHandle sound hObject h r.nextHandle).trans (if_pos rfl))
    ((object?_openHandle hObject h id).trans (if_pos rfl))

/-- So many handles were opened and closed again. Everything else is as it was; only the counts of an
object may have started again in between. -/
structure Restores (r r' : Registry) (handles : Nat) : Prop where
  sound : r'.Sound
  handles_eq : r'.handles = r.handles
  outline_eq : r'.outline = r.outline
  lastObject_eq : r'.lastObject = r.lastObject
  lastHandle_eq : r'.lastHandle = r.lastHandle + handles

/-- A registry restores itself. -/
theorem Sound.restores (sound : r.Sound) : r.Restores r 0 := ⟨sound, rfl, rfl, rfl, rfl⟩

/-- While few handles were opened, the counts are back as well. -/
theorem Restores.eq_spend {handles : Nat} (restores : r.Restores r' handles) (sound : r.Sound)
    (few : r'.Few) : r' = r.spend 0 handles := by
  have fewBefore : r.Few :=
    few.of_le (by rw [restores.lastHandle_eq]; exact Nat.le_add_right _ _)
  have hObjects := restores.sound.objects_eq_of_outline (restores.sound.accurate_of_few few) sound
    (sound.accurate_of_few fewBefore) restores.outline_eq restores.handles_eq
  obtain ⟨objects, table, lastObject, lastHandle⟩ := r'
  cases hObjects
  cases restores.handles_eq
  cases restores.lastObject_eq
  cases restores.lastHandle_eq
  rfl

/-- Discarding the handle that was just opened restores the registry, if the object stays. -/
theorem Sound.restores_openHandle (sound : r.Sound) (hObject : r.object? id = some object)
    (h : r.openHandle id access share = (.ok handle, r'))
    (hStays : object.pinned = true ∨ r'.Few ∧ r.handlesOn id ≠ []) :
    r.Restores (r'.discardHandle r.nextHandle) 1 where
  sound := (sound.openHandle h).discardHandle _
  handles_eq := sound.handles_discardHandle_openHandle h
  outline_eq := by
    have release := sound.release_openHandle hObject h
    refine (release.outline_eq (sound.openHandle h) ?_).trans (sound.outline_openHandle h)
    rintro ⟨hNone, hFree⟩
    rcases hStays with hPinned | ⟨few, hOpen⟩
    · cases hPinned.symm.trans hFree
    · have accurate := (sound.openHandle h).accurate_of_few few
      refine hOpen ?_
      rw [← sound.handlesOn_discardHandle_openHandle h, (release.opens_eq_zero_iff accurate).1 hNone]
  lastObject_eq := by rw [lastObject_discardHandle, lastObject_openHandle h]
  lastHandle_eq := by rw [lastHandle_discardHandle, lastHandle_openHandle h]

/-- Closing the only handle on an object that is not pinned takes the object away as well. -/
theorem Sound.discardHandle_openHandle_of_free (sound : r.Sound)
    (hObject : r.object? id = some object) (h : r.openHandle id access share = (.ok handle, r'))
    (hFree : object.pinned = false) (hNone : object.counts.opens = 0) :
    r'.discardHandle r.nextHandle = { r.spend 0 1 with objects := r.objects.erase id } := by
  have hGone : ((object.counts.add access share).remove access share).opens = 0 := by
    simp [SharingCounts.add, SharingCounts.remove, SharingCounts.countUp, SharingCounts.countDown, hNone]
  have hObjects := (sound.release_openHandle hObject h).objects_eq
  rw [if_pos ⟨hGone, hFree⟩] at hObjects
  have hErased : r'.objects.erase id = r.objects.erase id := by
    obtain ⟨_, _, _, rfl⟩ := eq_of_openHandle h
    exact Table.erase_set _ _ _
  have hHandles := sound.handles_discardHandle_openHandle h
  have hLastObject : (r'.discardHandle r.nextHandle).lastObject = r.lastObject := by
    rw [lastObject_discardHandle, lastObject_openHandle h]
  have hLastHandle : (r'.discardHandle r.nextHandle).lastHandle = r.lastHandle + 1 := by
    rw [lastHandle_discardHandle, lastHandle_openHandle h]
  generalize r'.discardHandle r.nextHandle = closed at *
  obtain ⟨objects, handles, lastObject, lastHandle⟩ := closed
  cases hObjects.trans hErased
  cases hHandles
  cases hLastObject
  cases hLastHandle
  rfl

end

end ConsoleHost.Registry
