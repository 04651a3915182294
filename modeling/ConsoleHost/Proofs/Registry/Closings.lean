import ConsoleHost.Proofs.Registry.Pairs

/-! Handles that are closed one after the other. Those that are open no more by then are passed over, so what is left
does not depend on the order. -/

namespace ConsoleHost.Registry

variable {r : Registry}

theorem entries_foldl_discardHandle (handles : List HandleId) (r : Registry) :
    (handles.foldl discardHandle r).handles.entries = r.handles.entries.filter fun e => e.1 ∉ handles := by
  induction handles generalizing r with
  | nil => simp
  | cons handle rest ih =>
      rw [List.foldl_cons, ih, handles_discardHandle, Table.erase, List.filter_filter]
      refine List.filter_congr fun e _ => ?_
      simp [Bool.and_comm]

theorem keys_foldl_discardHandle (handles : List HandleId) (r : Registry) :
    (handles.foldl discardHandle r).handles.keys = r.handles.keys.filter fun id => id ∉ handles := by
  rw [Table.keys, entries_foldl_discardHandle, Table.keys, List.filter_map]
  rfl

theorem handle?_foldl_discardHandle (handles : List HandleId) (r : Registry) (handle : HandleId) :
    (handles.foldl discardHandle r).handle? handle = if handle ∈ handles then none else r.handle? handle := by
  induction handles generalizing r with
  | nil => rfl
  | cons first rest ih =>
      rw [List.foldl_cons, ih, handle?_discardHandle]
      by_cases hFirst : handle = first
      · simp [hFirst]
      · simp [hFirst]

theorem lastHandle_foldl_discardHandle (handles : List HandleId) (r : Registry) :
    (handles.foldl discardHandle r).lastHandle = r.lastHandle := by
  induction handles generalizing r with
  | nil => rfl
  | cons handle rest ih => rw [List.foldl_cons, ih, lastHandle_discardHandle]

/-- Closing handles on pinned objects takes no object away. -/
theorem Sound.outline_foldl_discardHandle (sound : r.Sound) (handles : List HandleId)
    (hPins : ∀ handle ∈ handles, ∀ x, r.handle? handle = some x → ∃ endpoint, r.Pins x.object endpoint) :
    (handles.foldl Registry.discardHandle r).outline = r.outline := by
  induction handles generalizing r with
  | nil => rfl
  | cons first rest ih =>
      rw [List.forall_mem_cons] at hPins
      rw [List.foldl_cons, ih (sound.discardHandle first), sound.outline_discardHandle_of_pins first hPins.1]
      intro handle hMem x hLive
      rw [handle?_discardHandle] at hLive
      split at hLive
      · cases hLive
      · obtain ⟨endpoint, pins⟩ := hPins.2 handle hMem x hLive
        exact ⟨endpoint, (sound.pins_discardHandle first).2 pins⟩

/-- Closing handles on other objects leaves an object with its counts. -/
theorem Sound.object?_foldl_discardHandle_of_ne (sound : r.Sound) {id : ObjectId} (handles : List HandleId)
    (hOthers : ∀ handle ∈ handles, ∀ x, r.handle? handle = some x → x.object ≠ id) :
    (handles.foldl Registry.discardHandle r).object? id = r.object? id := by
  induction handles generalizing r with
  | nil => rfl
  | cons first rest ih =>
      rw [List.forall_mem_cons] at hOthers
      rw [List.foldl_cons, ih (sound.discardHandle first), sound.object?_discardHandle_of_ne hOthers.1]
      intro handle hMem x hLive
      rw [handle?_discardHandle] at hLive
      split at hLive
      · cases hLive
      · exact hOthers.2 handle hMem x hLive

/-- Nothing is pinned, so whatever is there is there because it is open. -/
structure Abandoned (r : Registry) : Prop where
  sound : r.Sound
  held : r.Held
  not_pins : ∀ id endpoint, ¬r.Pins id endpoint

namespace Abandoned

theorem opened (abandoned : r.Abandoned) {id : ObjectId} {object : SessionObject}
    (hObject : r.object? id = some object) : object.pinned = false ∧ r.handlesOn id ≠ [] := by
  have hFree : object.pinned ≠ true := fun hPinned =>
    abandoned.not_pins id object.endpoint ((pins_iff_of_object? hObject).2 ⟨rfl, hPinned⟩)
  exact ⟨Bool.eq_false_iff.2 hFree, (abandoned.held id object hObject).resolve_left hFree⟩

theorem discardHandle (abandoned : r.Abandoned) (handle : HandleId) : (r.discardHandle handle).Abandoned where
  sound := abandoned.sound.discardHandle handle
  held := abandoned.held.discardHandle abandoned.sound handle
  not_pins id endpoint hPins := abandoned.not_pins id endpoint ((abandoned.sound.pins_discardHandle handle).1 hPins)

/-- The last object goes with the last handle. -/
theorem objects_eq_empty (abandoned : r.Abandoned) (hHandles : r.handles = .empty) : r.objects = .empty := by
  have hNone : r.objects.entries = [] := by
    refine List.eq_nil_iff_forall_not_mem.2 fun ⟨id, object⟩ hMem => ?_
    refine (abandoned.opened (abandoned.sound.objects_distinct.get?_of_mem hMem)).2 ?_
    rw [handlesOn, hHandles]
    rfl
  exact congrArg Table.mk hNone

end Abandoned

end ConsoleHost.Registry
