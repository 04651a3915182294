import ConsoleHost.Proofs.Registry.Undo

/-! What holds objects in a registry: a pin of the session, or a handle. Only creating an object and
letting go of it change what is pinned; opening and closing handles never does. -/

namespace ConsoleHost.Registry

/-- An object with this endpoint is pinned. -/
def Pins (r : Registry) (id : ObjectId) (endpoint : Endpoint) : Prop :=
  ∃ counts, r.object? id = some ⟨endpoint, counts, true⟩

/-- Every object is pinned or open. -/
def Held (r : Registry) : Prop :=
  ∀ id object, r.object? id = some object → object.pinned = true ∨ r.handlesOn id ≠ []

variable {r r' : Registry} {id : ObjectId} {endpoint : Endpoint} {object : SessionObject} {handle : HandleId}

theorem pins_iff_of_object? (hObject : r.object? id = some object) :
    r.Pins id endpoint ↔ object.endpoint = endpoint ∧ object.pinned = true := by
  rw [Pins, hObject]
  constructor
  · rintro ⟨counts, h⟩
    cases h
    exact ⟨rfl, rfl⟩
  · rintro ⟨rfl, hPinned⟩
    exact ⟨object.counts, by rw [← hPinned]⟩

/-- What is not there pins nothing. -/
theorem not_pins_of_none (hNone : r.object? id = none) : ¬r.Pins id endpoint := by
  rintro ⟨counts, h⟩
  rw [hNone] at h
  cases h

theorem pins_congr (h : r'.object? id = r.object? id) : r'.Pins id endpoint ↔ r.Pins id endpoint := by
  rw [Pins, Pins, h]

theorem Held.spend (held : r.Held) (objects handles : Nat) : (r.spend objects handles).Held := held

theorem not_pins_empty : ¬empty.Pins id endpoint := not_pins_of_none rfl

theorem held_empty : empty.Held := by
  intro id object h
  simp [object?, empty, Table.empty, Table.get?] at h

/-! Creating. -/

/-- A new object pins its endpoint if it is created so, and the others pin as before. -/
theorem Sound.pins_create (sound : r.Sound) (new : Endpoint) (pinned : Bool) :
    (r.create new pinned).Pins id endpoint ↔
      (id = r.nextObject ∧ pinned = true ∧ endpoint = new) ∨ r.Pins id endpoint := by
  by_cases hNew : id = r.nextObject
  · have hObject := (sound.object?_create new pinned id).trans (if_pos hNew)
    rw [pins_iff_of_object? hObject]
    constructor
    · rintro ⟨rfl, hPinned⟩
      exact .inl ⟨hNew, hPinned, rfl⟩
    · rintro (⟨_, hPinned, rfl⟩ | hOld)
      · exact ⟨rfl, hPinned⟩
      · rw [hNew] at hOld
        exact absurd hOld (not_pins_of_none sound.object?_nextObject)
  · rw [pins_congr ((sound.object?_create new pinned id).trans (if_neg hNew))]
    constructor
    · exact .inr
    · rintro (⟨hSame, _⟩ | hOld)
      · exact absurd hSame hNew
      · exact hOld

/-- An object that is created pinned is held. -/
theorem Held.create (held : r.Held) (sound : r.Sound) (new : Endpoint) :
    (r.create new true).Held := by
  intro other object hObject
  rw [sound.object?_create] at hObject
  split at hObject
  · cases hObject
    exact .inl rfl
  · exact held other object hObject

/-! Opening. -/

/-- Opening a handle changes no pin. -/
theorem pins_openHandle {target : ObjectId} {access : AccessMask} {share : ShareMode}
    (h : r.openHandle target access share = (.ok handle, r')) : r'.Pins id endpoint ↔ r.Pins id endpoint := by
  obtain ⟨object, hObject, _⟩ := eq_of_openHandle h
  have hAfter := object?_openHandle hObject h id
  by_cases hTarget : id = target
  · subst hTarget
    rw [pins_iff_of_object? (hAfter.trans (if_pos rfl)), pins_iff_of_object? hObject]
  · exact pins_congr (hAfter.trans (if_neg hTarget))

/-- Opening holds the object that is opened, and takes nothing from the others. -/
theorem held_openHandle {target : ObjectId} {access : AccessMask} {share : ShareMode}
    (h : r.openHandle target access share = (.ok handle, r'))
    (held : ∀ id object, id ≠ target → r.object? id = some object →
      object.pinned = true ∨ r.handlesOn id ≠ []) : r'.Held := by
  obtain ⟨object, hObject, _⟩ := eq_of_openHandle h
  intro other found hFound
  rw [handlesOn_openHandle hObject h]
  by_cases hTarget : other = target
  · exact .inr (by simp [hTarget])
  · rw [object?_openHandle hObject h, if_neg hTarget] at hFound
    simpa [hTarget] using held other found hTarget hFound

/-- An open holds its object. -/
theorem Held.openHandle {target : ObjectId} {access : AccessMask} {share : ShareMode}
    (held : r.Held) (h : r.openHandle target access share = (.ok handle, r')) : r'.Held :=
  held_openHandle h fun id object _ => held id object

/-! Closing and letting go. -/

/-- What a release leaves is held if it was held before. -/
theorem Release.held {counts : SharingCounts} {pinned : Bool}
    (release : Release r r' id object counts pinned) (held : r.Held) : r'.Held := by
  intro other found hFound
  rw [release.object?_eq] at hFound
  split at hFound
  · next hSame =>
      subst hSame
      split at hFound
      · cases hFound
      · next hStays =>
          cases hFound
          cases pinned with
          | true => exact .inl rfl
          | false =>
              refine .inr fun hNone => hStays ⟨UInt32.toNat_inj.1 ?_, rfl⟩
              exact Nat.le_zero.1 (by simpa [hNone] using release.opens_le)
  · next hOther =>
      rw [release.handlesOn_of_ne other hOther]
      exact held other found hFound

/-- A release changes the pin of its own object at most. -/
theorem Release.pins_iff {counts : SharingCounts} {pinned : Bool}
    (release : Release r r' id object counts pinned) {other : ObjectId} :
    r'.Pins other endpoint ↔
      if other = id then object.endpoint = endpoint ∧ pinned = true else r.Pins other endpoint := by
  have hAfter := release.object?_eq other
  by_cases hSame : other = id
  · rw [if_pos hSame]
    rw [if_pos hSame] at hAfter
    split at hAfter
    · next hGone =>
        refine iff_of_false (not_pins_of_none hAfter) ?_
        simp [hGone.2]
    · exact pins_iff_of_object? hAfter
  · rw [if_neg hSame]
    exact pins_congr (hAfter.trans (if_neg hSame))

/-- Discarding a handle changes no pin. -/
theorem Sound.pins_discardHandle (sound : r.Sound) (handle : HandleId) :
    (r.discardHandle handle).Pins id endpoint ↔ r.Pins id endpoint := by
  cases hHandle : r.handle? handle with
  | none => rw [discardHandle_of_not_open hHandle]
  | some h =>
      cases hTarget : r.object? h.object with
      | none =>
          rw [discardHandle_of_no_object hHandle hTarget]
          exact pins_congr rfl
      | some target =>
          rw [(sound.release_discardHandle hHandle hTarget).pins_iff]
          split
          · next hSame => rw [hSame, pins_iff_of_object? hTarget]
          · exact Iff.rfl

/-- Discarding a handle destroys its object if nothing else holds it, so all that is left is held. -/
theorem Held.discardHandle (held : r.Held) (sound : r.Sound) (handle : HandleId) :
    (r.discardHandle handle).Held := by
  cases hHandle : r.handle? handle with
  | none => rwa [discardHandle_of_not_open hHandle]
  | some h =>
      cases hTarget : r.object? h.object with
      | none =>
          intro other found hFound
          have hLive : r.object? other = some found := by
            rwa [discardHandle_of_no_object hHandle hTarget] at hFound
          have hNe : other ≠ h.object := by
            rintro rfl
            cases hLive.symm.trans hTarget
          rw [(sound.handlesOn_split hHandle).2 other hNe]
          exact held other found hLive
      | some target => exact (sound.release_discardHandle hHandle hTarget).held held

/-- Unpinning takes one pin away. -/
theorem Sound.pins_unpin (sound : r.Sound) (target : ObjectId) :
    (r.unpin target).Pins id endpoint ↔ id ≠ target ∧ r.Pins id endpoint := by
  cases hTarget : r.object? target with
  | none =>
      rw [unpin_of_none hTarget]
      constructor
      · intro hPins
        refine ⟨?_, hPins⟩
        rintro rfl
        exact not_pins_of_none hTarget hPins
      · exact And.right
  | some object =>
      rw [(sound.release_unpin hTarget).pins_iff]
      by_cases hSame : id = target <;> simp [hSame]

/-- Unpinning destroys an object without handles, so all that is left is held. -/
theorem Held.unpin (held : r.Held) (sound : r.Sound) (target : ObjectId) :
    (r.unpin target).Held := by
  cases hTarget : r.object? target with
  | none => rwa [unpin_of_none hTarget]
  | some object => exact (sound.release_unpin hTarget).held held

/-! All of it together, for steps that pin nothing and let go of nothing. -/

/-- A registry without stray objects, in which the same objects are pinned as before. -/
structure Continues (r r' : Registry) : Prop where
  sound : r'.Sound
  held : r'.Held
  pins_iff : ∀ id endpoint, r'.Pins id endpoint ↔ r.Pins id endpoint

theorem Sound.continues (sound : r.Sound) (held : r.Held) : r.Continues r :=
  ⟨sound, held, fun _ _ => Iff.rfl⟩

/-- A registry that continues one that continues a third continues the third. -/
theorem Continues.trans {r'' : Registry} (first : r.Continues r') (second : r'.Continues r'') :
    r.Continues r'' :=
  ⟨second.sound, second.held, fun id endpoint =>
    (second.pins_iff id endpoint).trans (first.pins_iff id endpoint)⟩

theorem Continues.spend (continues : r.Continues r') (objects handles : Nat) :
    r.Continues (r'.spend objects handles) :=
  ⟨continues.sound.spend objects handles, continues.held.spend objects handles, continues.pins_iff⟩

/-- A registry goes on through an open. -/
theorem Continues.openHandle {r'' : Registry} {access : AccessMask} {share : ShareMode}
    (continues : r.Continues r') (h : r'.openHandle id access share = (.ok handle, r'')) : r.Continues r'' :=
  continues.trans
    ⟨continues.sound.openHandle h, continues.held.openHandle h, fun _ _ => pins_openHandle h⟩

/-- The outline lists the objects that are found. -/
theorem Sound.mem_outline_iff (sound : r.Sound) {pinned : Bool} :
    (id, endpoint, pinned) ∈ r.outline ↔ ∃ counts, r.object? id = some ⟨endpoint, counts, pinned⟩ := by
  simp only [outline, List.mem_map, Prod.mk.injEq, object?, ← sound.objects_distinct.mem_entries_iff]
  constructor
  · rintro ⟨⟨found, object⟩, hMem, rfl, rfl, rfl⟩
    exact ⟨object.counts, hMem⟩
  · rintro ⟨counts, hMem⟩
    exact ⟨_, hMem, rfl, rfl, rfl⟩

/-- Handles that come and go take no object away. -/
theorem Restores.object?_of_some {handles : Nat} (restores : r.Restores r' handles) (sound : r.Sound)
    (hObject : r.object? id = some object) :
    ∃ counts, r'.object? id = some { object with counts := counts } := by
  rw [← restores.sound.mem_outline_iff, restores.outline_eq, sound.mem_outline_iff]
  exact ⟨object.counts, hObject⟩

/-- What is pinned and what is held can be read off the outline and the handles. -/
theorem Restores.continues {handles : Nat} (restores : r.Restores r' handles) (sound : r.Sound)
    (held : r.Held) : r.Continues r' where
  sound := restores.sound
  held other object hObject := by
    obtain ⟨endpoint, counts, pinned⟩ := object
    have hMem := restores.sound.mem_outline_iff.2 ⟨counts, hObject⟩
    rw [restores.outline_eq] at hMem
    obtain ⟨before, hBefore⟩ := sound.mem_outline_iff.1 hMem
    have hOn : r'.handlesOn other = r.handlesOn other := by
      rw [handlesOn, restores.handles_eq, handlesOn]
    rw [hOn]
    exact (held other ⟨endpoint, before, pinned⟩ hBefore :)
  pins_iff other endpoint := by
    rw [Pins, Pins, ← restores.sound.mem_outline_iff, ← sound.mem_outline_iff, restores.outline_eq]

/-- An object that is not pinned can be created if it is opened at once. -/
theorem Continues.openHandle_create {r'' : Registry} {access : AccessMask} {share : ShareMode}
    (continues : r.Continues r') (new : Endpoint)
    (h : (r'.create new false).openHandle r'.nextObject access share = (.ok handle, r'')) :
    r.Continues r'' := by
  refine continues.trans ⟨(continues.sound.create new false).openHandle h, held_openHandle h ?_,
    fun id endpoint => ?_⟩
  · intro id object hOther hObject
    rw [continues.sound.object?_create, if_neg hOther] at hObject
    exact continues.held id object hObject
  · rw [pins_openHandle h, continues.sound.pins_create]
    simp

/-- A registry goes on when a handle is discarded. -/
theorem Continues.discardHandle (continues : r.Continues r') (handle : HandleId) :
    r.Continues (r'.discardHandle handle) :=
  continues.trans ⟨continues.sound.discardHandle handle,
    continues.held.discardHandle continues.sound handle,
    fun _ _ => continues.sound.pins_discardHandle handle⟩

theorem Continues.foldl_discardHandle (continues : r.Continues r') (handles : List HandleId) :
    r.Continues (handles.foldl Registry.discardHandle r') := by
  induction handles generalizing r' with
  | nil => exact continues
  | cons handle rest ih => exact ih (continues.discardHandle handle)

end ConsoleHost.Registry
