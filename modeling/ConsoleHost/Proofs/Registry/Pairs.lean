import ConsoleHost.Proofs.Registry.Pins

/-! Steps on pairs of pinned objects that are taken back: handles on both endpoints of a session that
are closed again, and endpoints that are let go of as soon as they are created. -/

namespace ConsoleHost.Registry

variable {r : Registry}

theorem Sound.outline_discardHandle_of_pins (sound : r.Sound) (handle : HandleId)
    (hPins : ∀ h, r.handle? handle = some h → ∃ endpoint, r.Pins h.object endpoint) :
    (r.discardHandle handle).outline = r.outline := by
  cases hHandle : r.handle? handle with
  | none => rw [discardHandle_of_not_open hHandle]
  | some h =>
      obtain ⟨endpoint, counts, hObject⟩ := hPins h hHandle
      exact (sound.release_discardHandle hHandle hObject).outline_eq sound nofun

/-- Opening handles on two pinned objects and closing both again restores everything. -/
theorem Sound.restores_pair (sound : r.Sound) {one two : Registry} {opened later : HandleId}
    {input output : ObjectId} {first second : Endpoint} {access access' : AccessMask}
    {share share' : ShareMode} (hInput : r.Pins input first) (hOutput : r.Pins output second)
    (hOne : r.openHandle input access share = (.ok opened, one))
    (hTwo : one.openHandle output access' share' = (.ok later, two)) :
    r.Restores ((two.discardHandle r.nextHandle).discardHandle one.nextHandle) 2 := by
  have soundOne := sound.openHandle hOne
  have soundTwo := soundOne.openHandle hTwo
  have hNumber : one.lastHandle = r.lastHandle + 1 := lastHandle_openHandle hOne
  have hNe : r.nextHandle ≠ one.nextHandle := by
    rw [nextHandle, nextHandle, hNumber, ne_eq, HandleId.mk.injEq]
    omega
  have hPins {id : ObjectId} {endpoint : Endpoint} : two.Pins id endpoint ↔ r.Pins id endpoint :=
    (pins_openHandle hTwo).trans (pins_openHandle hOne)
  obtain ⟨_, hInputObject⟩ := hInput
  obtain ⟨_, hOutputObject⟩ := (pins_openHandle hOne).2 hOutput
  have hFirst := (handle?_openHandle sound hInputObject hOne r.nextHandle).trans (if_pos rfl)
  have hLater := handle?_openHandle soundOne hOutputObject hTwo
  have hSecond := (hLater one.nextHandle).trans (if_pos rfl)
  have hStill := ((hLater r.nextHandle).trans (if_neg hNe)).trans hFirst
  refine ⟨(soundTwo.discardHandle _).discardHandle _, ?_, ?_, ?_, ?_⟩
  · obtain ⟨x, _, hHandlesOne⟩ := handles_openHandle hOne
    obtain ⟨y, _, hHandlesTwo⟩ := handles_openHandle hTwo
    have hFresh := hHandlesOne ▸ soundOne.nextHandle_not_mem
    calc
      _ = ((two.handles).erase r.nextHandle).erase one.nextHandle := by
          rw [handles_discardHandle, handles_discardHandle]
      _ = (((r.handles.insert r.nextHandle x).erase r.nextHandle).insert one.nextHandle y).erase
            one.nextHandle := by
          rw [hHandlesTwo, hHandlesOne, Table.erase_insert_of_ne _ _ hNe.symm]
      _ = r.handles := by
          rw [Table.erase_insert _ sound.nextHandle_not_mem, Table.erase_insert]
          intro hMem
          exact hFresh (by rw [Table.keys_insert]; exact List.mem_append_left _ hMem)
  · rw [(soundTwo.discardHandle _).outline_discardHandle_of_pins,
      soundTwo.outline_discardHandle_of_pins, soundOne.outline_openHandle hTwo,
      sound.outline_openHandle hOne]
    · intro h hHandle
      cases hStill.symm.trans hHandle
      exact ⟨first, hPins.2 ⟨_, hInputObject⟩⟩
    · intro h hHandle
      rw [handle?_discardHandle, if_neg hNe.symm] at hHandle
      cases hSecond.symm.trans hHandle
      exact ⟨second, (soundTwo.pins_discardHandle _).2 (hPins.2 hOutput)⟩
  · rw [lastObject_discardHandle, lastObject_discardHandle, lastObject_openHandle hTwo,
      lastObject_openHandle hOne]
  · rw [lastHandle_discardHandle, lastHandle_discardHandle, lastHandle_openHandle hTwo, hNumber]

/-- Creating two pinned objects and letting go of both again restores everything. -/
theorem Sound.unpin_create_pair (sound : r.Sound) (first second : Endpoint) :
    (((r.create first true).create second true).unpin r.nextObject).unpin
      (r.create first true).nextObject = r.spend 2 0 := by
  have soundOne := sound.create first true
  have soundTwo := soundOne.create second true
  have hNe : r.nextObject ≠ (r.create first true).nextObject := by
    simp [nextObject, Registry.create]
  have hFirst := (sound.object?_create first true r.nextObject).trans (if_pos rfl)
  have hLater := soundOne.object?_create second true
  have hStill := ((hLater r.nextObject).trans (if_neg hNe)).trans hFirst
  have hFresh : (r.create first true).nextObject ∉ r.objects.keys := fun hMem =>
    soundOne.nextObject_not_mem (by
      rw [Registry.create, Table.keys_insert]
      exact List.mem_append_left _ hMem)
  have hRest : ((r.create first true).create second true).unpin r.nextObject =
      { (r.create first true).create second true with
        objects := r.objects.insert (r.create first true).nextObject ⟨second, .zero, true⟩ } := by
    rw [unpin_of_unopened hStill rfl]
    congr 1
    exact (Table.erase_insert_of_ne _ _ hNe.symm).trans
      (congrArg (Table.insert · _ _) (Table.erase_insert _ sound.nextObject_not_mem))
  have hSecond : (((r.create first true).create second true).unpin r.nextObject).object?
      (r.create first true).nextObject = some ⟨second, .zero, true⟩ := by
    rw [hRest]
    exact Table.get?_insert_self _ _ hFresh
  rw [unpin_of_unopened hSecond rfl, hRest]
  simp only [Table.erase_insert _ hFresh]
  rfl

end ConsoleHost.Registry
