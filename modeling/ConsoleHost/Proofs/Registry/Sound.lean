import ConsoleHost.Proofs.Registry.Entries
import ConsoleHost.Registry
import Mathlib.Tactic.Common

/-! What holds of every registry: its identifiers are distinct and were given out before, and no object
counts more openers than there are handles on it. As long as fewer handles were opened than a 32-bit word
counts, every handle is on a live object of its kind, and the counts of an object are exact. -/

namespace ConsoleHost

namespace SharingCounts

/-- The counts are those of an object that has just these handles on it. -/
structure Tallies (c : SharingCounts) (handles : List IoHandle) : Prop where
  opens_eq : c.opens.toNat = handles.length
  readers_eq : c.readers.toNat = handles.countP fun h => h.access.reads
  writers_eq : c.writers.toNat = handles.countP fun h => h.access.writes
  readSharers_eq : c.readSharers.toNat = handles.countP fun h => h.share.sharesRead
  writeSharers_eq : c.writeSharers.toNat = handles.countP fun h => h.share.sharesWrite

variable {c : SharingCounts} {handles before after : List IoHandle} {h : IoHandle}

theorem tallies_zero : zero.Tallies [] := ⟨rfl, rfl, rfl, rfl, rfl⟩

/-- The only counts that can be those of an object with just these handles on it. -/
def tally (handles : List IoHandle) : SharingCounts where
  opens := .ofNat handles.length
  readers := .ofNat (handles.countP fun h => h.access.reads)
  writers := .ofNat (handles.countP fun h => h.access.writes)
  readSharers := .ofNat (handles.countP fun h => h.share.sharesRead)
  writeSharers := .ofNat (handles.countP fun h => h.share.sharesWrite)

/-- Counts that tally are the tally itself, wrapped to 32 bits. -/
theorem Tallies.eq_tally (tallies : c.Tallies handles) : c = tally handles := by
  have hWord {n : UInt32} {k : Nat} (h : n.toNat = k) : n = .ofNat k := by
    rw [← h, UInt32.ofNat_toNat]
  obtain ⟨opens, readers, writers, readSharers, writeSharers⟩ := c
  rw [tally, mk.injEq]
  exact ⟨hWord tallies.opens_eq, hWord tallies.readers_eq, hWord tallies.writers_eq,
    hWord tallies.readSharers_eq, hWord tallies.writeSharers_eq⟩

/-- A count of zero means no handle: fewer of them than the counter has values are counted. -/
theorem Tallies.opens_eq_zero_iff (tallies : c.Tallies handles) : c.opens = 0 ↔ handles = [] := by
  rw [← UInt32.toNat_inj, tallies.opens_eq]
  exact List.length_eq_zero_iff

/-- It does not matter at which place a handle is counted. -/
theorem countP_insert (p : IoHandle → Bool) :
    (before ++ h :: after).countP p = (before ++ after).countP p + (p h).toNat := by
  rw [List.countP_append, List.countP_append, List.countP_cons]
  cases p h <;> simp [Nat.add_assoc]

/-- One more opener is counted wherever its handle stands, as long as there is room in the words. -/
theorem Tallies.add (tallies : c.Tallies (before ++ after))
    (hRoom : (before ++ after).length + 1 < UInt32.size) :
    (c.add h.access h.share).Tallies (before ++ h :: after) := by
  have hUp {n : UInt32} {p : IoHandle → Bool} (hn : n.toNat = (before ++ after).countP p) :
      (countUp n (p h)).toNat = (before ++ h :: after).countP p := by
    have hLe : (before ++ after).countP p ≤ (before ++ after).length := List.countP_le_length
    rw [countP_insert, toNat_countUp (by omega), hn]
  have hAll : c.opens.toNat = (before ++ after).countP fun _ => true := by
    rw [tallies.opens_eq, List.countP_true]
  exact ⟨(hUp hAll).trans (congrFun List.countP_true _), hUp tallies.readers_eq, hUp tallies.writers_eq,
    hUp tallies.readSharers_eq, hUp tallies.writeSharers_eq⟩

/-- One opener less is counted wherever its handle stood. -/
theorem Tallies.remove (tallies : c.Tallies (before ++ h :: after)) :
    (c.remove h.access h.share).Tallies (before ++ after) := by
  have hDown {n : UInt32} {p : IoHandle → Bool} (hn : n.toNat = (before ++ h :: after).countP p) :
      (countDown n (p h)).toNat = (before ++ after).countP p := by
    rw [toNat_countDown, hn, countP_insert, Nat.add_sub_cancel]
  have hAll : c.opens.toNat = (before ++ h :: after).countP fun _ => true := by
    rw [tallies.opens_eq, List.countP_true]
  exact ⟨(hDown hAll).trans (congrFun List.countP_true _), hDown tallies.readers_eq, hDown tallies.writers_eq,
    hDown tallies.readSharers_eq, hDown tallies.writeSharers_eq⟩

/-- What the counts are asked before a handle is opened. -/
theorem permits_iff (c : SharingCounts) (access : AccessMask) (share : ShareMode) :
    c.permits access share = true ↔
      (access.reads = true → c.readSharers = c.opens) ∧
      (access.writes = true → c.writeSharers = c.opens) ∧
      (¬share.sharesRead = true → c.readers = 0) ∧
      (¬share.sharesWrite = true → c.writers = 0) := by
  simp [permits, and_assoc, imp_iff_not_or]

/-- Accurate counts admit a newcomer exactly when it can live side by side with every single opener. -/
theorem Tallies.permits_iff (tallies : c.Tallies handles) (access : AccessMask) (share : ShareMode) :
    c.permits access share = true ↔ ∀ h ∈ handles, Compatible access share h.access h.share := by
  have hReadSharers : c.readSharers = c.opens ↔ ∀ h ∈ handles, h.share.sharesRead = true := by
    rw [← UInt32.toNat_inj, tallies.readSharers_eq, tallies.opens_eq, List.countP_eq_length]
  have hWriteSharers : c.writeSharers = c.opens ↔ ∀ h ∈ handles, h.share.sharesWrite = true := by
    rw [← UInt32.toNat_inj, tallies.writeSharers_eq, tallies.opens_eq, List.countP_eq_length]
  have hReaders : c.readers = 0 ↔ ∀ h ∈ handles, ¬h.access.reads = true := by
    rw [← UInt32.toNat_inj, tallies.readers_eq]
    exact List.countP_eq_zero
  have hWriters : c.writers = 0 ↔ ∀ h ∈ handles, ¬h.access.writes = true := by
    rw [← UInt32.toNat_inj, tallies.writers_eq]
    exact List.countP_eq_zero
  rw [SharingCounts.permits_iff, hReadSharers, hWriteSharers, hReaders, hWriters]
  simp only [Compatible]
  constructor
  · rintro ⟨hReads, hWrites, hNoReader, hNoWriter⟩ h hMem
    refine ⟨fun ha => hReads ha h hMem, fun ha => hWrites ha h hMem, fun hr => ?_, fun hw => ?_⟩
    · exact Classical.byContradiction fun hn => hNoReader hn h hMem hr
    · exact Classical.byContradiction fun hn => hNoWriter hn h hMem hw
  · intro hAll
    exact ⟨fun ha h hMem => (hAll h hMem).1 ha, fun ha h hMem => (hAll h hMem).2.1 ha,
      fun hn h hMem hr => hn ((hAll h hMem).2.2.1 hr),
      fun hn h hMem hw => hn ((hAll h hMem).2.2.2 hw)⟩

end SharingCounts

namespace Registry

/-- Fewer handles were opened so far than a 32-bit word can count. -/
def Few (r : Registry) : Prop := r.lastHandle < UInt32.size

instance (r : Registry) : Decidable r.Few := inferInstanceAs (Decidable (_ < _))

/-- Handles are never issued again, so few handles now means few before. -/
theorem Few.of_le {r r' : Registry} (few : r'.Few) (h : r.lastHandle ≤ r'.lastHandle) : r.Few :=
  Nat.lt_of_le_of_lt h few

/-- Every handle is on a live object of its kind, and every object counts the handles on it. -/
structure Accurate (r : Registry) : Prop where
  handle_live : ∀ id h, r.handle? id = some h →
    ∃ object, r.object? h.object = some object ∧ h.kind = object.endpoint.kind
  tallies : ∀ id object, r.object? id = some object → object.counts.Tallies (r.handlesOn id)

structure Sound (r : Registry) : Prop where
  objects_distinct : r.objects.Distinct
  handles_distinct : r.handles.Distinct
  object_le : ∀ id ∈ r.objects.keys, id.number ≤ r.lastObject
  handle_le : ∀ id ∈ r.handles.keys, id.number ≤ r.lastHandle
  target_le : ∀ id h, r.handle? id = some h → h.object.number ≤ r.lastObject
  length_handles_le : r.handles.entries.length ≤ r.lastHandle
  opens_le : ∀ id object, r.object? id = some object →
    object.counts.opens.toNat ≤ (r.handlesOn id).length
  accurate_of_few : r.Few → r.Accurate

variable {r : Registry}

/-- The handles on one object are among all the open ones. -/
theorem length_handlesOn_le (id : ObjectId) :
    (r.handlesOn id).length ≤ r.handles.entries.length := by
  have hFilter := List.length_filter_le (fun h : IoHandle => h.object = id) r.handles.values
  rwa [Table.values, List.length_map] at hFilter

/-- The next identifier of an object is fresh. -/
theorem Sound.nextObject_not_mem (sound : r.Sound) : r.nextObject ∉ r.objects.keys := by
  intro h
  have hLe : r.lastObject + 1 ≤ r.lastObject := sound.object_le _ h
  omega

/-- The next identifier of a handle is fresh. -/
theorem Sound.nextHandle_not_mem (sound : r.Sound) : r.nextHandle ∉ r.handles.keys := by
  intro h
  have hLe : r.lastHandle + 1 ≤ r.lastHandle := sound.handle_le _ h
  omega

theorem Sound.object?_nextObject (sound : r.Sound) : r.object? r.nextObject = none :=
  (Table.get?_eq_none_iff _ _).2 sound.nextObject_not_mem

theorem Sound.handle?_nextHandle (sound : r.Sound) : r.handle? r.nextHandle = none :=
  (Table.get?_eq_none_iff _ _).2 sound.nextHandle_not_mem

/-- The handles on an object are those that are found and name it. -/
theorem Sound.mem_handlesOn_iff (sound : r.Sound) {id : ObjectId} {h : IoHandle} :
    h ∈ r.handlesOn id ↔ ∃ handle, r.handle? handle = some h ∧ h.object = id := by
  simp only [handlesOn, Table.values, List.mem_filter, decide_eq_true_eq, handle?,
    ← sound.handles_distinct.mem_entries_iff]
  constructor
  · rintro ⟨hMem, hObject⟩
    obtain ⟨⟨handle, _⟩, hEntry, rfl⟩ := List.mem_map.1 hMem
    exact ⟨handle, hEntry, hObject⟩
  · rintro ⟨handle, hEntry, hObject⟩
    exact ⟨List.mem_map.2 ⟨_, hEntry, rfl⟩, hObject⟩

/-- Nobody has a handle on an object that is still to be created. -/
theorem Sound.handlesOn_nextObject (sound : r.Sound) : r.handlesOn r.nextObject = [] := by
  refine List.eq_nil_iff_forall_not_mem.2 fun x hx => ?_
  obtain ⟨handle, hHandle, hOn⟩ := sound.mem_handlesOn_iff.1 hx
  have hLe : x.object.number ≤ r.lastObject := sound.target_le handle x hHandle
  rw [hOn] at hLe
  exact Nat.not_succ_le_self _ hLe

theorem accurate_empty : empty.Accurate where
  handle_live := by simp [handle?, empty, Table.empty, Table.get?]
  tallies := by simp [object?, empty, Table.empty, Table.get?]

theorem sound_empty : empty.Sound where
  objects_distinct := Table.distinct_empty
  handles_distinct := Table.distinct_empty
  object_le := by simp [empty, Table.empty, Table.keys]
  handle_le := by simp [empty, Table.empty, Table.keys]
  target_le := by simp [handle?, empty, Table.empty, Table.get?]
  length_handles_le := Nat.le_refl _
  opens_le := by simp [object?, empty, Table.empty, Table.get?]
  accurate_of_few _ := accurate_empty

/-! Creating an object. -/

@[simp] theorem handlesOn_create (endpoint : Endpoint) (pinned : Bool) (id : ObjectId) :
    (r.create endpoint pinned).handlesOn id = r.handlesOn id := rfl

/-- A new object is found under its identifier, and every other object as before. -/
theorem Sound.object?_create (sound : r.Sound) (endpoint : Endpoint) (pinned : Bool)
    (id : ObjectId) :
    (r.create endpoint pinned).object? id =
      if id = r.nextObject then some ⟨endpoint, .zero, pinned⟩ else r.object? id := by
  split
  · subst id
    exact Table.get?_insert_self _ _ sound.nextObject_not_mem
  · next hne => exact Table.get?_insert_of_ne _ _ (Ne.symm hne)

/-- The counts stay accurate when an object is created: the new one counts nothing and no
handle names it. -/
theorem Accurate.create (accurate : r.Accurate) (sound : r.Sound) (endpoint : Endpoint) (pinned : Bool) :
    (r.create endpoint pinned).Accurate where
  handle_live := by
    intro id h hHandle
    obtain ⟨object, hObject, hKind⟩ := accurate.handle_live id h hHandle
    refine ⟨object, ?_, hKind⟩
    rw [sound.object?_create, if_neg, hObject]
    intro hNew
    rw [hNew, sound.object?_nextObject] at hObject
    cases hObject
  tallies := by
    intro id object hObject
    rw [handlesOn_create]
    rw [sound.object?_create] at hObject
    split at hObject
    · next hNew =>
        rw [hNew, sound.handlesOn_nextObject]
        cases hObject
        exact SharingCounts.tallies_zero
    · exact accurate.tallies id object hObject

theorem Sound.create (sound : r.Sound) (endpoint : Endpoint) (pinned : Bool) :
    (r.create endpoint pinned).Sound where
  objects_distinct := sound.objects_distinct.insert _ sound.nextObject_not_mem
  handles_distinct := sound.handles_distinct
  object_le := by
    intro id hMem
    rw [Registry.create, Table.keys_insert] at hMem
    rcases List.mem_append.1 hMem with hMem | hMem
    · exact Nat.le_succ_of_le (sound.object_le id hMem)
    · rw [List.mem_singleton.1 hMem]
      exact Nat.le_refl _
  handle_le := sound.handle_le
  target_le id h hHandle := Nat.le_succ_of_le (sound.target_le id h hHandle)
  length_handles_le := sound.length_handles_le
  opens_le := by
    intro id object hObject
    rw [sound.object?_create] at hObject
    split at hObject
    · cases hObject
      exact Nat.zero_le _
    · exact sound.opens_le id object hObject
  accurate_of_few few := (sound.accurate_of_few few).create sound endpoint pinned

/-! Opening a handle. -/

section

variable {r' : Registry} {id : ObjectId} {access : AccessMask} {share : ShareMode}

def newHandle (id : ObjectId) (object : SessionObject) (access : AccessMask) (share : ShareMode) :
    IoHandle :=
  ⟨id, object.endpoint.kind, access, share⟩

/-- An open that the counts permit issues the next handle and counts it. -/
theorem openHandle_of_permits {object : SessionObject} (hObject : r.object? id = some object)
    (hPermits : object.counts.permits access share = true) :
    r.openHandle id access share = (.ok r.nextHandle, { r with
      objects := r.objects.set id { object with counts := object.counts.add access share }
      handles := r.handles.insert r.nextHandle (newHandle id object access share)
      lastHandle := r.lastHandle + 1 }) := by
  simp [openHandle, hObject, hPermits, newHandle]

/-- An open that the counts do not permit is refused for sharing and changes nothing. -/
theorem openHandle_of_not_permits {object : SessionObject} (hObject : r.object? id = some object)
    (hPermits : object.counts.permits access share = false) :
    r.openHandle id access share = (.error (.sharingViolation id.number), r) := by
  simp [openHandle, hObject, hPermits]

/-- An open of an object that is not there is refused and changes nothing. -/
theorem openHandle_of_none (hNone : r.object? id = none) :
    r.openHandle id access share = (.error (.invalidRequest "object does not exist"), r) := by
  simp [openHandle, hNone]

/-- The first handle on an object is never refused for sharing. -/
theorem openHandle_of_unopened {endpoint : Endpoint} {pinned : Bool}
    (hObject : r.object? id = some ⟨endpoint, .zero, pinned⟩) :
    ∃ r', r.openHandle id access share = (.ok r.nextHandle, r') :=
  ⟨_, openHandle_of_permits hObject (SharingCounts.permits_zero access share)⟩

/-- Nobody has an object open that was just created, so the first handle on it is never refused. -/
theorem Sound.openHandle_create (sound : r.Sound) (endpoint : Endpoint) (pinned : Bool)
    (access : AccessMask) (share : ShareMode) :
    ∃ opened, (r.create endpoint pinned).openHandle r.nextObject access share = (.ok r.nextHandle, opened) :=
  openHandle_of_unopened ((sound.object?_create endpoint pinned r.nextObject).trans (if_pos rfl))

/-- Opening a handle is refused, and then nothing has changed, or it succeeds under the next number. -/
theorem openHandle_cases (r : Registry) (id : ObjectId) (access : AccessMask) (share : ShareMode) :
    (∃ refusal, r.openHandle id access share = (.error refusal, r)) ∨
      ∃ r', r.openHandle id access share = (.ok r.nextHandle, r') := by
  cases hObject : r.object? id with
  | none => exact .inl ⟨_, openHandle_of_none hObject⟩
  | some object =>
      cases hPermits : object.counts.permits access share with
      | false => exact .inl ⟨_, openHandle_of_not_permits hObject hPermits⟩
      | true => exact .inr ⟨_, openHandle_of_permits hObject hPermits⟩

/-- A refused open leaves the registry as it was. -/
theorem eq_of_openHandle_error {refusal : Refusal}
    (h : r.openHandle id access share = (.error refusal, r')) : r' = r := by
  obtain ⟨other, hOther⟩ | ⟨opened, hOpened⟩ := r.openHandle_cases id access share
  · exact (Prod.mk.inj (h.symm.trans hOther)).2
  · cases h.symm.trans hOpened

/-- Everything that opening a handle does. -/
theorem eq_of_openHandle {handle : HandleId}
    (h : r.openHandle id access share = (.ok handle, r')) :
    ∃ object, r.object? id = some object ∧ object.counts.permits access share = true ∧
      r' = { r with
        objects := r.objects.set id { object with counts := object.counts.add access share }
        handles := r.handles.insert r.nextHandle (newHandle id object access share)
        lastHandle := r.lastHandle + 1 } := by
  cases hObject : r.object? id with
  | none =>
      rw [openHandle_of_none hObject] at h
      cases h
  | some object =>
      cases hPermits : object.counts.permits access share with
      | false =>
          rw [openHandle_of_not_permits hObject hPermits] at h
          cases h
      | true =>
          rw [openHandle_of_permits hObject hPermits] at h
          exact ⟨object, rfl, hPermits, (Prod.mk.inj h).2.symm⟩

/-- An open that succeeds issues the next handle. -/
theorem handle_eq_of_openHandle {handle : HandleId}
    (h : r.openHandle id access share = (.ok handle, r')) : handle = r.nextHandle := by
  obtain ⟨object, hObject, hPermits, _⟩ := eq_of_openHandle h
  rw [openHandle_of_permits hObject hPermits] at h
  exact (Except.ok.inj (Prod.mk.inj h).1).symm

variable {handle : HandleId}

/-- After an open the new handle is found with its access and its share mode, and the others as before. -/
theorem handle?_openHandle (sound : r.Sound) {object : SessionObject}
    (hObject : r.object? id = some object) (h : r.openHandle id access share = (.ok handle, r'))
    (other : HandleId) :
    r'.handle? other =
      if other = r.nextHandle then some (newHandle id object access share) else r.handle? other := by
  obtain ⟨found, hFound, _, rfl⟩ := eq_of_openHandle h
  cases hObject.symm.trans hFound
  split
  · subst other
    exact Table.get?_insert_self _ _ sound.nextHandle_not_mem
  · next hne => exact Table.get?_insert_of_ne _ _ (Ne.symm hne)

/-- An open counts on its own object and leaves the others alone. -/
theorem object?_openHandle {object : SessionObject} (hObject : r.object? id = some object)
    (h : r.openHandle id access share = (.ok handle, r')) (other : ObjectId) :
    r'.object? other =
      if other = id then some { object with counts := object.counts.add access share }
      else r.object? other := by
  obtain ⟨found, hFound, _, rfl⟩ := eq_of_openHandle h
  cases hObject.symm.trans hFound
  split
  · subst other
    exact Table.get?_set_self _ _ (Table.mem_keys_of_get? hObject)
  · next hne => exact Table.get?_set_of_ne _ _ hne

/-- An open adds one handle to those on its object. -/
theorem handlesOn_openHandle {object : SessionObject} (hObject : r.object? id = some object)
    (h : r.openHandle id access share = (.ok handle, r')) (other : ObjectId) :
    r'.handlesOn other =
      r.handlesOn other ++ if other = id then [newHandle id object access share] else [] := by
  obtain ⟨found, hFound, _, rfl⟩ := eq_of_openHandle h
  cases hObject.symm.trans hFound
  by_cases hOther : other = id
  · simp [handlesOn, Table.values, Table.insert, newHandle, hOther]
  · simp [handlesOn, Table.values, Table.insert, newHandle, hOther, Ne.symm hOther]

theorem entries_openHandle {object : SessionObject} (hObject : r.object? id = some object)
    (h : r.openHandle id access share = (.ok handle, r')) :
    r'.handles.entries = r.handles.entries ++ [(r.nextHandle, newHandle id object access share)] := by
  obtain ⟨found, hFound, _, rfl⟩ := eq_of_openHandle h
  cases hObject.symm.trans hFound
  rfl

theorem lastObject_openHandle (h : r.openHandle id access share = (.ok handle, r')) :
    r'.lastObject = r.lastObject := by
  obtain ⟨object, _, _, rfl⟩ := eq_of_openHandle h
  rfl

theorem lastHandle_openHandle (h : r.openHandle id access share = (.ok handle, r')) :
    r'.lastHandle = r.lastHandle + 1 := by
  obtain ⟨object, _, _, rfl⟩ := eq_of_openHandle h
  rfl

/-- What is few after an opening was few before. -/
theorem Few.of_openHandle (few : r'.Few) (h : r.openHandle id access share = (.ok handle, r')) :
    r.Few :=
  few.of_le (by rw [lastHandle_openHandle h]; exact Nat.le_succ _)

/-- The new handle is counted if the words of the counts have room for it. -/
theorem Accurate.openHandle (accurate : r.Accurate) (sound : r.Sound) (few : r'.Few)
    (h : r.openHandle id access share = (.ok handle, r')) : r'.Accurate := by
  obtain ⟨object, hObject, _⟩ := eq_of_openHandle h
  have hObjects := object?_openHandle hObject h
  have hHandles := handle?_openHandle sound hObject h
  constructor
  · intro other x hx
    rw [hHandles] at hx
    split at hx
    · cases hx
      refine ⟨{ object with counts := object.counts.add access share }, ?_, rfl⟩
      exact (hObjects id).trans (if_pos rfl)
    · obtain ⟨found, hFound, hKind⟩ := accurate.handle_live other x hx
      rw [hObjects]
      split
      · next hSame =>
          rw [hSame, hObject] at hFound
          cases hFound
          exact ⟨_, rfl, hKind⟩
      · exact ⟨found, hFound, hKind⟩
  · intro other found hFound
    rw [hObjects] at hFound
    rw [handlesOn_openHandle hObject h]
    split at hFound
    · next hSame =>
        cases hFound
        rw [if_pos hSame, hSame]
        have hTally := accurate.tallies id object hObject
        rw [← List.append_nil (r.handlesOn id)] at hTally
        refine hTally.add (h := newHandle id object access share) ?_
        have hLength := Nat.le_trans (length_handlesOn_le (r := r) id) sound.length_handles_le
        rw [Few, lastHandle_openHandle h] at few
        rw [List.append_nil]
        omega
    · next hOther =>
        rw [if_neg hOther, List.append_nil]
        exact accurate.tallies other found hFound

/-- Whether or not its word has started again, no object counts more openers than it has. -/
theorem Sound.opens_le_openHandle (sound : r.Sound) {object : SessionObject}
    (hObject : r.object? id = some object) (h : r.openHandle id access share = (.ok handle, r'))
    {other : ObjectId} {found : SessionObject} (hFound : r'.object? other = some found) :
    found.counts.opens.toNat ≤ (r'.handlesOn other).length := by
  rw [object?_openHandle hObject h] at hFound
  rw [handlesOn_openHandle hObject h, List.length_append]
  split at hFound
  · next hSame =>
      cases hFound
      have hOpens := sound.opens_le id object hObject
      have hUp := SharingCounts.toNat_countUp_le object.counts.opens true
      rw [if_pos hSame, hSame]
      exact Nat.le_trans hUp (Nat.succ_le_succ hOpens)
  · exact Nat.le_add_right_of_le (sound.opens_le other found hFound)

/-- An open keeps the registry sound. -/
theorem Sound.openHandle (sound : r.Sound) (h : r.openHandle id access share = (.ok handle, r')) :
    r'.Sound := by
  obtain ⟨object, hObject, _, hEq⟩ := eq_of_openHandle h
  refine ⟨?_, ?_, ?_, ?_, ?_, ?_, fun other found => sound.opens_le_openHandle hObject h,
    fun few => (sound.accurate_of_few (few.of_openHandle h)).openHandle sound few h⟩
  · rw [hEq]
    exact sound.objects_distinct.set _ _
  · rw [hEq]
    exact sound.handles_distinct.insert _ sound.nextHandle_not_mem
  · rw [hEq]
    intro other hMem
    rw [Table.keys_set] at hMem
    exact sound.object_le other hMem
  · rw [hEq]
    intro other hMem
    rw [Table.keys_insert] at hMem
    rcases List.mem_append.1 hMem with hMem | hMem
    · exact Nat.le_succ_of_le (sound.handle_le other hMem)
    · rw [List.mem_singleton.1 hMem]
      exact Nat.le_refl _
  · intro other x hx
    rw [handle?_openHandle sound hObject h] at hx
    rw [lastObject_openHandle h]
    split at hx
    · cases hx
      exact sound.object_le id (Table.mem_keys_of_get? hObject)
    · exact sound.target_le other x hx
  · rw [entries_openHandle hObject h, lastHandle_openHandle h, List.length_append]
    exact Nat.succ_le_succ sound.length_handles_le

end

end Registry

end ConsoleHost
