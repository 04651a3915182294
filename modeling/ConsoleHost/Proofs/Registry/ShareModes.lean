import ConsoleHost.Proofs.Registry.Runs

/-! The counts of an object stand for the handles on it one by one: while few handles were opened, an opener
is admitted exactly when it agrees with each of them, and so any two handles that are open at a time agree. -/

namespace ConsoleHost

/-- Compatibility does not depend on who came first. -/
theorem Compatible.symm {access otherAccess : AccessMask} {share otherShare : ShareMode}
    (h : Compatible access share otherAccess otherShare) :
    Compatible otherAccess otherShare access share := by
  obtain ⟨hReads, hWrites, hOtherReads, hOtherWrites⟩ := h
  exact ⟨hOtherReads, hOtherWrites, hReads, hWrites⟩

namespace Registry

variable {r : Registry} {id : ObjectId} {object : SessionObject} {access : AccessMask}
  {share : ShareMode}

/-- An opener agrees with every handle that is open on an object. -/
def Admits (r : Registry) (id : ObjectId) (access : AccessMask) (share : ShareMode) : Prop :=
  ∀ handle x, r.handle? handle = some x → x.object = id →
    Compatible access share x.access x.share

/-- While handles are few, the counts decide as a comparison with every open handle would. -/
theorem Sound.permits_iff_admits (sound : r.Sound) (few : r.Few) (hObject : r.object? id = some object) :
    object.counts.permits access share = true ↔ r.Admits id access share := by
  rw [((sound.accurate_of_few few).tallies id object hObject).permits_iff]
  constructor
  · intro h handle x hHandle hOn
    exact h x (sound.mem_handlesOn_iff.2 ⟨handle, hHandle, hOn⟩)
  · intro h x hx
    obtain ⟨handle, hHandle, hOn⟩ := sound.mem_handlesOn_iff.1 hx
    exact h handle x hHandle hOn

/-- While handles are few, an open succeeds exactly if it is compatible with every handle on the object. -/
theorem Sound.openHandle_ok_iff (sound : r.Sound) (few : r.Few) (hObject : r.object? id = some object) :
    (∃ handle opened, r.openHandle id access share = (.ok handle, opened)) ↔ r.Admits id access share := by
  rw [← sound.permits_iff_admits few hObject]
  constructor
  · rintro ⟨handle, opened, hOpen⟩
    obtain ⟨found, hFound, hPermits, _⟩ := eq_of_openHandle hOpen
    cases hObject.symm.trans hFound
    exact hPermits
  · intro hPermits
    exact ⟨_, _, openHandle_of_permits hObject hPermits⟩

/-- An object that is there refuses only for sharing. -/
theorem eq_sharingViolation_of_openHandle {refusal : Refusal} {refused : Registry}
    (hObject : r.object? id = some object) (h : r.openHandle id access share = (.error refusal, refused)) :
    refusal = .sharingViolation id.number := by
  cases hPermits : object.counts.permits access share with
  | true =>
      rw [openHandle_of_permits hObject hPermits] at h
      cases h
  | false =>
      rw [openHandle_of_not_permits hObject hPermits] at h
      exact (Except.error.inj (Prod.mk.inj h).1).symm

/-- Any two handles on one object can live side by side. -/
def Peaceful (r : Registry) : Prop :=
  ∀ g h x y, r.handle? g = some x → r.handle? h = some y → g ≠ h → x.object = y.object →
    Compatible x.access x.share y.access y.share

theorem peaceful_empty : empty.Peaceful := by
  intro g h x y hg
  simp [handle?, empty, Table.empty, Table.get?] at hg

/-- Where handles are only closed, those that are left remain compatible. -/
theorem Peaceful.of_handles {r' : Registry} (peaceful : r.Peaceful)
    (h : ∀ handle x, r'.handle? handle = some x → r.handle? handle = some x) : r'.Peaceful := by
  intro g k x y hg hk
  exact peaceful g k x y (h g x hg) (h k y hk)

/-- A handle that was opened is compatible with those that were there. -/
theorem Peaceful.openHandle {r' : Registry} {opened : HandleId} (peaceful : r.Peaceful) (sound : r.Sound)
    (few : r.Few) (h : r.openHandle id access share = (.ok opened, r')) : r'.Peaceful := by
  obtain ⟨object, hObject, hPermits, _⟩ := eq_of_openHandle h
  have hAdmits := (sound.permits_iff_admits few hObject).1 hPermits
  intro g k x y hg hk hne hOn
  rw [handle?_openHandle sound hObject h] at hg hk
  split at hg
  · next hgNew =>
      rw [if_neg fun hkNew => hne (hgNew.trans hkNew.symm)] at hk
      cases hg
      exact hAdmits k y hk hOn.symm
  · split at hk
    · cases hk
      exact (hAdmits g x hg hOn).symm
    · exact peaceful g k x y hg hk hne hOn

/-- Every operation leaves all pairs of handles compatible. -/
theorem Peaceful.apply (peaceful : r.Peaceful) (sound : r.Sound) (few : r.Few) (op : Operation) :
    (r.apply op).Peaceful := by
  cases op with
  | create endpoint pinned => exact peaceful
  | unpin id => exact peaceful.of_handles fun handle x hx => by rwa [Registry.apply, handle?_unpin] at hx
  | openHandle id access share =>
      obtain ⟨refusal, h⟩ | ⟨opened, h⟩ := r.openHandle_cases id access share
      · rwa [Registry.apply, h]
      · rw [Registry.apply, h]
        exact peaceful.openHandle sound few h
  | closeHandle id =>
      refine peaceful.of_handles fun handle x hx => ?_
      rw [Registry.apply, ← discardHandle, handle?_discardHandle] at hx
      split at hx
      · cases hx
      · exact hx

/-- Handles that were few in the end were few all along. -/
theorem Peaceful.after (peaceful : r.Peaceful) (sound : r.Sound) {ops : List Operation}
    (few : (r.after ops).Few) : (r.after ops).Peaceful := by
  induction ops generalizing r with
  | nil => exact peaceful
  | cons op ops ih =>
      exact ih (peaceful.apply sound (few.of_le (last_le_after (op :: ops)).2) op) (sound.apply op) few

/-- After any operations that open fewer handles than a 32-bit word can count: opening a live object
succeeds exactly when the opener agrees with every handle on it; any two handles on one object share what
the other does; an opening that succeeds adds one new handle, with the access and the sharing that were
asked for; and one that is refused changes nothing. -/
theorem share_modes_enforced (ops : List Operation) (few : empty.opened ops < UInt32.size) :
    (∀ id access share, (run ops).object? id ≠ none →
      ((∃ handle opened, (run ops).openHandle id access share = (.ok handle, opened)) ↔
        ∀ g x, (run ops).handle? g = some x → x.object = id →
          (access.reads = true → x.share.sharesRead = true) ∧
          (access.writes = true → x.share.sharesWrite = true) ∧
          (x.access.reads = true → share.sharesRead = true) ∧
          (x.access.writes = true → share.sharesWrite = true))) ∧
    (∀ g h x y, (run ops).handle? g = some x → (run ops).handle? h = some y → g ≠ h →
      x.object = y.object →
        (y.access.reads = true → x.share.sharesRead = true) ∧
        (y.access.writes = true → x.share.sharesWrite = true)) ∧
    (∀ id access share handle opened, (run ops).openHandle id access share = (.ok handle, opened) →
      handle = (run ops).nextHandle ∧ (run ops).handle? handle = none ∧
        ∃ object, (run ops).object? id = some object ∧
          ∀ other, opened.handle? other =
            if other = handle then some ⟨id, object.endpoint.kind, access, share⟩
            else (run ops).handle? other) ∧
    (∀ id access share refusal refused, (run ops).object? id ≠ none →
      (run ops).openHandle id access share = (.error refusal, refused) →
        refusal = .sharingViolation id.number ∧ refused = run ops) := by
  have sound := sound_run ops
  have fewRun := few_run few
  have peaceful : (run ops).Peaceful := peaceful_empty.after sound_empty fewRun
  refine ⟨fun id access share hLive => ?_, fun g h x y hg hh hne hOn => ?_,
    fun id access share handle opened h => ?_, fun id access share refusal refused hLive hRefused => ?_⟩
  · obtain ⟨object, hObject⟩ := Option.ne_none_iff_exists'.1 hLive
    exact sound.openHandle_ok_iff fewRun hObject
  · obtain ⟨_, _, hReads, hWrites⟩ := peaceful g h x y hg hh hne hOn
    exact ⟨hReads, hWrites⟩
  · obtain ⟨object, hObject, _⟩ := eq_of_openHandle h
    cases handle_eq_of_openHandle h
    exact ⟨rfl, sound.handle?_nextHandle, object, hObject, handle?_openHandle sound hObject h⟩
  · obtain ⟨object, hObject⟩ := Option.ne_none_iff_exists'.1 hLive
    exact ⟨eq_sharingViolation_of_openHandle hObject hRefused, eq_of_openHandle_error hRefused⟩

/-- A reader that lets others read and a second one beside it, on an input endpoint. -/
def readersOnly : List Operation :=
  [.create (.input ⟨4⟩) true, .openHandle ⟨1⟩ .genericRead ⟨1⟩, .openHandle ⟨1⟩ .genericRead .all]

theorem share_modes_enforced_readersOnly :
    empty.opened readersOnly < UInt32.size ∧
    (∃ handle opened, (run readersOnly).openHandle ⟨1⟩ .genericRead ⟨1⟩ = (.ok handle, opened)) ∧
    (run readersOnly).openHandle ⟨1⟩ .genericWrite .all = (.error (.sharingViolation 1), run readersOnly) := by
  have few : empty.opened readersOnly < UInt32.size := by decide
  obtain ⟨hAdmitted, -, -, hRefused⟩ := share_modes_enforced readersOnly few
  have hLive : (run readersOnly).object? ⟨1⟩ ≠ none := by decide
  have hAgree : ∀ x ∈ (run readersOnly).handles.values,
      Compatible .genericRead ⟨1⟩ x.access x.share := by decide
  refine ⟨few, (hAdmitted ⟨1⟩ .genericRead ⟨1⟩ hLive).2 fun g x hHandle _ => ?_, ?_⟩
  · exact hAgree x (Table.mem_values_of_get? hHandle)
  · have hFails : ((run readersOnly).openHandle ⟨1⟩ .genericWrite .all).1 = .error (.sharingViolation 1) := by
      decide
    exact Prod.ext hFails (hRefused ⟨1⟩ .genericWrite .all _ _ hLive (Prod.ext hFails rfl)).2

end Registry

end ConsoleHost
