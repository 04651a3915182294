import ConsoleHost.Proofs.Registry.Pins

/-! An input endpoint that gets another wake event. No operation of a registry looks at the event, so it does
not matter whether it is exchanged before an operation or after it. -/

namespace ConsoleHost

namespace Table

variable {κ α : Type} [DecidableEq κ] {t : Table κ α} {j k : κ} {v : α} {f : α → α}

def adjust (t : Table κ α) (k : κ) (f : α → α) : Table κ α :=
  ⟨t.entries.map fun e => if e.1 = k then (e.1, f e.2) else e⟩

theorem adjust_of_not_mem (h : k ∉ t.keys) : t.adjust k f = t := by
  have hSame : (t.entries.map fun e => if e.1 = k then (e.1, f e.2) else e) = t.entries := by
    conv_rhs => rw [← List.map_id t.entries]
    refine List.map_congr_left fun e hMem => if_neg ?_
    rintro rfl
    exact h (List.mem_map_of_mem hMem)
  rw [adjust, hSame]

/-- Adjusting a key changes what is found under it and nothing else. -/
theorem get?_adjust : (t.adjust k f).get? j = (t.get? j).map fun v => if j = k then f v else v := by
  have hKey : (fun e : κ × α => decide (e.1 = j)) ∘ (fun e => if e.1 = k then (e.1, f e.2) else e) =
      fun e => decide (e.1 = j) := by
    funext e
    by_cases h : e.1 = k <;> simp [h]
  simp only [get?, adjust, List.find?_map, hKey]
  cases hFind : t.entries.find? fun e => e.1 = j with
  | none => rfl
  | some e =>
      have hHere : e.1 = j := by simpa using List.find?_some hFind
      subst hHere
      by_cases h : e.1 = k <;> simp [h]

theorem adjust_insert :
    (t.insert j v).adjust k f = (t.adjust k f).insert j (if j = k then f v else v) := by
  by_cases h : j = k <;> simp [adjust, insert, h]

theorem adjust_set : (t.set j v).adjust k f = (t.adjust k f).set j (if j = k then f v else v) := by
  simp only [adjust, set, List.map_map]
  refine congrArg Table.mk (List.map_congr_left fun e _ => ?_)
  by_cases hj : e.1 = j <;> by_cases hk : e.1 = k <;> simp_all

theorem adjust_erase : (t.erase j).adjust k f = (t.adjust k f).erase j := by
  simp only [adjust, erase, List.filter_map]
  refine congrArg Table.mk (congrArg _ (List.filter_congr fun e _ => ?_))
  by_cases hk : e.1 = k <;> simp [hk]

end Table

namespace Registry

/-- Another wake event for the endpoint under `id`. -/
def rewire (r : Registry) (id : ObjectId) (event : RawHandle) : Registry :=
  { r with objects := r.objects.adjust id fun object => { object with endpoint := .input event } }

variable {r r' : Registry} {id target : ObjectId} {event : RawHandle}

/-- Renewing the event of an input changes its endpoint and nothing else. -/
theorem object?_rewire : (r.rewire id event).object? target =
    (r.object? target).map fun object =>
      if target = id then { object with endpoint := .input event } else object :=
  Table.get?_adjust

/-- There is nothing to renew on an object that is not there. -/
theorem rewire_of_new (h : id ∉ r.objects.keys) : r.rewire id event = r := by
  rw [rewire, Table.adjust_of_not_mem h]

/-- Renewing an event and creating an object may change places. -/
theorem rewire_create (endpoint : Endpoint) (pinned : Bool) :
    (r.create endpoint pinned).rewire id event =
      (r.rewire id event).create (if r.nextObject = id then .input event else endpoint) pinned := by
  simp only [rewire, create, Table.adjust_insert]
  by_cases h : r.nextObject = id
  · rw [if_pos h, if_pos h]
    rfl
  · rw [if_neg h, if_neg h]
    rfl

theorem objects_rewire_set {object : SessionObject} :
    (r.objects.set target object).adjust id (fun object => { object with endpoint := .input event }) =
      (r.rewire id event).objects.set target
        (if target = id then { object with endpoint := .input event } else object) :=
  Table.adjust_set

/-- A handle notes the kind of its object, which stays the input kind. -/
theorem openHandle_rewire {old : RawHandle} {access : AccessMask} {share : ShareMode}
    (hPins : r.Pins id (.input old)) :
    (r.rewire id event).openHandle target access share =
      ((r.openHandle target access share).1, (r.openHandle target access share).2.rewire id event) := by
  cases hObject : r.object? target with
  | none =>
      have hNone : (r.rewire id event).object? target = none := by rw [object?_rewire, hObject, Option.map_none]
      rw [openHandle_of_none hObject, openHandle_of_none hNone]
  | some object =>
      have hRewired := (object?_rewire : (r.rewire id event).object? target = _)
      rw [hObject, Option.map_some] at hRewired
      cases hPermits : object.counts.permits access share with
      | false =>
          rw [openHandle_of_not_permits hObject hPermits, openHandle_of_not_permits hRewired]
          split <;> exact hPermits
      | true =>
          rw [openHandle_of_permits hObject hPermits, openHandle_of_permits hRewired]
          · simp only [rewire, objects_rewire_set]
            split
            · next hSame =>
                have hEndpoint := ((pins_iff_of_object? (hSame ▸ hObject)).1 hPins).1
                simp only [newHandle, hEndpoint]
                rfl
            · rfl
          · split <;> exact hPermits

theorem forgetOpener_rewire (h : IoHandle) :
    (r.rewire id event).forgetOpener h = (r.forgetOpener h).rewire id event := by
  cases hObject : r.object? h.object with
  | none => simp [forgetOpener, object?_rewire, hObject]
  | some object =>
      have hRewired := (object?_rewire : (r.rewire id event).object? h.object = _)
      rw [hObject, Option.map_some] at hRewired
      simp only [forgetOpener, hObject, hRewired]
      by_cases hSame : h.object = id
      · simp only [if_pos hSame]
        split
        · simp only [rewire, Table.adjust_erase]
        · simp only [rewire, objects_rewire_set, if_pos hSame]
      · simp only [if_neg hSame]
        split
        · simp only [rewire, Table.adjust_erase]
        · simp only [rewire, objects_rewire_set, if_neg hSame]

/-- Renewing an event and discarding a handle may change places. -/
theorem discardHandle_rewire (handle : HandleId) :
    (r.rewire id event).discardHandle handle = (r.discardHandle handle).rewire id event := by
  have hSame : (r.rewire id event).handle? handle = r.handle? handle := rfl
  cases hHandle : r.handle? handle with
  | none => rw [discardHandle_of_not_open hHandle, discardHandle_of_not_open (hSame.trans hHandle)]
  | some h =>
      rw [discardHandle_of_open hHandle, discardHandle_of_open (hSame.trans hHandle), ← forgetOpener_rewire]
      rfl

end Registry

end ConsoleHost
