import ConsoleHost.Proofs.Registry.Undo

/-! What holds of the endpoints of all objects. Only creating an object brings a new endpoint in; opening, closing and
letting go keep the endpoints there are, or some of them. -/

namespace ConsoleHost

namespace Table

variable {κ α : Type} [DecidableEq κ] {t : Table κ α} {k : κ} {v w : α}

omit [DecidableEq κ] in
theorem mem_values_insert_iff : w ∈ (t.insert k v).values ↔ w ∈ t.values ∨ w = v := by
  simp [values, insert]

theorem mem_values_of_mem_erase (h : w ∈ (t.erase k).values) : w ∈ t.values :=
  (List.filter_sublist.map Prod.snd).subset h

theorem mem_values_of_mem_set (h : w ∈ (t.set k v).values) : w ∈ t.values ∨ w = v := by
  obtain ⟨entry, hEntry, rfl⟩ := List.mem_map.1 h
  obtain ⟨old, hOld, rfl⟩ := List.mem_map.1 hEntry
  split
  · exact .inr rfl
  · exact .inl (List.mem_map_of_mem hOld)

end Table

namespace Registry

def Every (P : Endpoint → Prop) (r : Registry) : Prop := ∀ object ∈ r.objects.values, P object.endpoint

variable {P : Endpoint → Prop} {r r' : Registry} {id : ObjectId} {object : SessionObject}

theorem every_empty : empty.Every P := List.forall_mem_nil _

/-- What holds of every endpoint holds of the one that is found. -/
theorem Every.of_object? (every : r.Every P) (h : r.object? id = some object) : P object.endpoint :=
  every object (Table.mem_values_of_get? h)

theorem Every.spend (every : r.Every P) (objects handles : Nat) : (r.spend objects handles).Every P := every

/-- What holds of every endpoint can be read off the outline. -/
theorem every_iff_outline : r.Every P ↔ ∀ e ∈ r.outline, P e.2.1 := by
  simp only [Every, outline, Table.values, List.forall_mem_map]

theorem Every.of_outline (every : r.Every P) (h : r'.outline = r.outline) : r'.Every P := by
  rw [every_iff_outline, h]
  exact every_iff_outline.1 every

/-- A new object may be created if its endpoint has the property. -/
theorem Every.create (every : r.Every P) {endpoint : Endpoint} (h : P endpoint) (pinned : Bool) :
    (r.create endpoint pinned).Every P := by
  intro object hMem
  rcases Table.mem_values_insert_iff.1 hMem with hOld | rfl
  · exact every object hOld
  · exact h

/-- Taking an object away takes the property from no other. -/
theorem Every.of_erase (every : r.Every P) (h : r'.objects = r.objects.erase id) : r'.Every P := by
  intro object hMem
  rw [h] at hMem
  exact every object (Table.mem_values_of_mem_erase hMem)

/-- An object changes in all but its endpoint. -/
theorem Every.of_set (every : r.Every P) {changed : SessionObject} (hObject : r.object? id = some object)
    (h : r'.objects = r.objects.set id changed) (hEndpoint : changed.endpoint = object.endpoint) : r'.Every P := by
  intro other hMem
  rw [h] at hMem
  rcases Table.mem_values_of_mem_set hMem with hOld | rfl
  · exact every other hOld
  · rw [hEndpoint]
    exact every.of_object? hObject

/-- Unpinning makes no endpoint. -/
theorem Every.unpin (every : r.Every P) (id : ObjectId) : (r.unpin id).Every P := by
  simp only [Registry.unpin]
  split
  · exact every
  · next hObject =>
      split
      · exact every.of_erase rfl
      · exact every.of_set hObject rfl rfl

/-- Opening a handle makes no endpoint. -/
theorem Every.openHandle {access : AccessMask} {share : ShareMode} {handle : HandleId} (every : r.Every P)
    (h : r.openHandle id access share = (.ok handle, r')) : r'.Every P := by
  obtain ⟨object, hObject, _, rfl⟩ := eq_of_openHandle h
  exact every.of_set hObject rfl rfl

theorem Every.forgetOpener (every : r.Every P) (h : IoHandle) : (r.forgetOpener h).Every P := by
  simp only [Registry.forgetOpener]
  split
  · exact every
  · next hObject =>
      split
      · exact every.of_erase rfl
      · exact every.of_set hObject rfl rfl

/-- Discarding a handle makes no endpoint. -/
theorem Every.discardHandle (every : r.Every P) (handle : HandleId) : (r.discardHandle handle).Every P := by
  cases hHandle : r.handle? handle with
  | none =>
      rw [discardHandle_of_not_open hHandle]
      exact every
  | some h =>
      have rest : { r with handles := r.handles.erase handle }.Every P := every
      rw [discardHandle_of_open hHandle]
      exact rest.forgetOpener h

theorem Every.foldl_discardHandle (every : r.Every P) (handles : List HandleId) :
    (handles.foldl Registry.discardHandle r).Every P := by
  induction handles generalizing r with
  | nil => exact every
  | cons handle rest ih => exact ih (every.discardHandle handle)

end Registry

end ConsoleHost
