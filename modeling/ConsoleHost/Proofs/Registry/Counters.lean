import ConsoleHost.Proofs.Registry.Runs

/-! The counts of objects over whole runs of a registry: they are exact while fewer handles are opened than a
32-bit word can count, and what they decide never leaves a handle without its object. -/

namespace ConsoleHost

namespace SharingCounts

/-- Taking an opener away that was counted loses nothing: adding it again gives the counts back. -/
theorem Tallies.add_remove {c : SharingCounts} {handles : List IoHandle} {h : IoHandle}
    (tallies : c.Tallies handles) (hMem : h ∈ handles) :
    (c.remove h.access h.share).add h.access h.share = c := by
  obtain ⟨before, after, rfl⟩ := List.append_of_mem hMem
  have hRoom : (before ++ after).length + 1 < UInt32.size := by
    have hWord := c.opens.toNat_lt_size
    rw [tallies.opens_eq] at hWord
    simp only [List.length_append, List.length_cons] at hWord ⊢
    omega
  exact (tallies.remove.add hRoom).eq_tally.trans tallies.eq_tally.symm

end SharingCounts

namespace Registry

variable {r : Registry}

/-- Closing an open handle takes away what opening it added, count by count. -/
theorem Sound.add_remove_counts (sound : r.Sound) (few : r.Few) {handle : HandleId} {x : IoHandle}
    (hHandle : r.handle? handle = some x) {object : SessionObject}
    (hObject : r.object? x.object = some object) :
    (object.counts.remove x.access x.share).add x.access x.share = object.counts :=
  ((sound.accurate_of_few few).tallies x.object object hObject).add_remove
    (sound.mem_handlesOn_iff.2 ⟨handle, hHandle, rfl⟩)

/-- What is given out next was never given out before. -/
theorem next_fresh (earlier later : List Operation) :
    (run earlier).handle? (run (earlier ++ later)).nextHandle = none ∧
      (run earlier).object? (run (earlier ++ later)).nextObject = none := by
  have sound := sound_run earlier
  obtain ⟨hObject, hHandle⟩ := last_le_after (r := run earlier) later
  rw [run_append]
  refine ⟨(Table.get?_eq_none_iff _ _).2 fun h => ?_, (Table.get?_eq_none_iff _ _).2 fun h => ?_⟩
  · exact Nat.not_succ_le_self _ (Nat.le_trans (sound.handle_le _ h) hHandle)
  · exact Nat.not_succ_le_self _ (Nat.le_trans (sound.object_le _ h) hObject)

/-- A handle that was closed stays closed, and closing it again is refused and changes nothing. -/
theorem closeHandle_of_closed {ops : List Operation} {handle : HandleId} {x : IoHandle}
    (hHandle : (run ops).handle? handle = some x) (later : List Operation) :
    (run (ops ++ .closeHandle handle :: later)).closeHandle handle =
      (.error (.handleNotOpen handle.number), run (ops ++ .closeHandle handle :: later)) := by
  have sound := sound_run ops
  have hGiven := sound.handle_le handle (Table.mem_keys_of_get? hHandle)
  have hClosed : ((run ops).discardHandle handle).handle? handle = none :=
    (handle?_discardHandle handle).trans (if_pos rfl)
  refine closeHandle_of_not_open ?_
  rw [run_append, after_cons]
  refine (sound.discardHandle handle).handle?_after_of_none ?_ hClosed later
  rwa [lastHandle_discardHandle]

/-- An object that is gone stays away. -/
theorem object?_of_gone {ops : List Operation} {id : ObjectId} {op : Operation}
    (hLive : (run ops).object? id ≠ none) (hGone : ((run ops).apply op).object? id = none)
    (later : List Operation) : (run (ops ++ op :: later)).object? id = none := by
  have sound := sound_run ops
  obtain ⟨object, hObject⟩ := Option.ne_none_iff_exists'.1 hLive
  have hGiven := sound.object_le id (Table.mem_keys_of_get? hObject)
  rw [run_append, after_cons]
  exact (sound.apply op).object?_after_of_none (Nat.le_trans hGiven (last_le_apply op).1) hGone later

/-- An operation takes no object away on which there is a handle, unless it closes that handle. -/
theorem Sound.object?_apply_of_open (sound : r.Sound) (few : r.Few) {op : Operation} {handle : HandleId}
    {x : IoHandle} (hHandle : r.handle? handle = some x) (hOp : op ≠ .closeHandle handle) :
    (r.apply op).object? x.object ≠ none := by
  have keeps (few' : (r.apply op).Few) : (r.apply op).object? x.object ≠ none := by
    have accurate := (sound.apply op).accurate_of_few few'
    obtain ⟨object, hObject, _⟩ :=
      accurate.handle_live handle x (sound.handle?_apply_of_some hHandle hOp)
    simp [hObject]
  by_cases hOpens : r.opens op = true
  · -- The handle that is opened may be one too many to count, but opening takes nothing away.
    obtain ⟨object, hObject, _⟩ := (sound.accurate_of_few few).handle_live handle x hHandle
    cases op with
    | openHandle id access share =>
        obtain ⟨refusal, h⟩ | ⟨opened, h⟩ := r.openHandle_cases id access share
        · simp [Registry.apply, h, hObject]
        · obtain ⟨target, hTarget, _⟩ := eq_of_openHandle h
          rw [Registry.apply, h, object?_openHandle hTarget h]
          split <;> simp [hObject]
    | _ => cases hOpens
  · refine keeps ?_
    rw [Few, lastHandle_apply, Bool.eq_false_iff.2 hOpens]
    exact few

/-- A handle that is closed at once leaves the handles as they were, and the objects as well unless it
was the only one on an object that nothing else holds. -/
theorem Sound.closeHandle_openHandle (sound : r.Sound) {id : ObjectId} {access : AccessMask}
    {share : ShareMode} {handle : HandleId} {r' : Registry} (few : r'.Few)
    (h : r.openHandle id access share = (.ok handle, r')) :
    ∃ object x closed, r.object? id = some object ∧
      r'.closeHandle handle = (.ok x, closed) ∧ closed.handles = r.handles ∧
      closed.objects =
        if object.pinned = false ∧ r.handlesOn id = [] then r.objects.erase id else r.objects := by
  obtain ⟨object, hObject, _⟩ := eq_of_openHandle h
  have hNew := (handle?_openHandle sound hObject h r.nextHandle).trans (if_pos rfl)
  have tallies := (sound.accurate_of_few (few.of_openHandle h)).tallies id object hObject
  cases handle_eq_of_openHandle h
  refine ⟨object, _, _, hObject, closeHandle_of_open hNew,
    sound.handles_discardHandle_openHandle h, ?_⟩
  split
  · next hGone =>
      rw [sound.discardHandle_openHandle_of_free hObject h hGone.1 (tallies.opens_eq_zero_iff.2 hGone.2)]
  · next hStays =>
      have restores : r.Restores (r'.discardHandle r.nextHandle) 1 := by
        refine sound.restores_openHandle hObject h ?_
        cases hPinned : object.pinned with
        | true => exact .inl rfl
        | false => exact .inr ⟨few, fun hNone => hStays ⟨hPinned, hNone⟩⟩
      rw [restores.eq_spend sound (few.of_le (Nat.le_of_eq lastHandle_discardHandle))]
      rfl

/-- After any operations that open fewer handles than a 32-bit word can count: the five counts of every
object are the numbers of handles on it that are open, read, write, and share either; no decrement would
fall below zero; an operation closes no handle but the one it names and leaves every open handle its
object; the identifiers given out next are new; an object that is gone stays away, and closing a handle
again is refused and changes nothing; and if one handle more can be counted, opening and closing it
restores all objects and handles, except for an object that only the new handle held. -/
theorem counters_exact (ops : List Operation) (few : empty.opened ops < UInt32.size) :
    (run ops).handles.Distinct ∧
    (∀ id object, (run ops).object? id = some object → object.counts.Tallies ((run ops).handlesOn id)) ∧
    (∀ handle x, (run ops).handle? handle = some x →
      ∃ object, (run ops).object? x.object = some object ∧ x.kind = object.endpoint.kind ∧
        (object.counts.remove x.access x.share).add x.access x.share = object.counts) ∧
    (∀ op handle x, (run ops).handle? handle = some x → op ≠ .closeHandle handle →
      ((run ops).apply op).handle? handle = some x ∧
        ((run ops).apply op).object? x.object ≠ none) ∧
    (∀ earlier later, ops = earlier ++ later →
      (run earlier).handle? (run ops).nextHandle = none ∧
        (run earlier).object? (run ops).nextObject = none) ∧
    (∀ id op later, (run ops).object? id ≠ none → ((run ops).apply op).object? id = none →
      (run (ops ++ op :: later)).object? id = none) ∧
    (∀ handle x later, (run ops).handle? handle = some x →
      (run (ops ++ .closeHandle handle :: later)).closeHandle handle =
        (.error (.handleNotOpen handle.number), run (ops ++ .closeHandle handle :: later))) ∧
    (empty.opened ops + 1 < UInt32.size →
      ∀ id access share handle r', (run ops).openHandle id access share = (.ok handle, r') →
        ∃ object x closed, (run ops).object? id = some object ∧
          r'.closeHandle handle = (.ok x, closed) ∧
          closed.handles = (run ops).handles ∧
          closed.objects =
            if object.pinned = false ∧ (run ops).handlesOn id = [] then (run ops).objects.erase id
            else (run ops).objects) := by
  have sound := sound_run ops
  have fewRun := few_run few
  have accurate := sound.accurate_of_few fewRun
  refine ⟨sound.handles_distinct, accurate.tallies, fun handle x hHandle => ?_, fun op handle x hHandle hOp => ?_, ?_,
    fun id op later hLive hGone => ?_, fun handle x later hHandle => closeHandle_of_closed hHandle later,
    fun hRoom id access share handle r' h => ?_⟩
  · obtain ⟨object, hObject, hKind⟩ := accurate.handle_live handle x hHandle
    exact ⟨object, hObject, hKind, sound.add_remove_counts fewRun hHandle hObject⟩
  · exact ⟨sound.handle?_apply_of_some hHandle hOp, sound.object?_apply_of_open fewRun hHandle hOp⟩
  · rintro earlier later rfl
    exact next_fresh earlier later
  · exact object?_of_gone hLive hGone later
  · refine sound.closeHandle_openHandle ?_ h
    have hLast : (run ops).lastHandle = empty.lastHandle + empty.opened ops := lastHandle_after ops
    rwa [Few, lastHandle_openHandle h, hLast, empty, Nat.zero_add]
/-- An output buffer that one handle reads and writes while another reads it. -/
def sharedOutput : List Operation :=
  [.create (.output ⟨80, 300⟩ ⟨80, 25⟩) true, .openHandle ⟨1⟩ .readWrite .all,
    .openHandle ⟨1⟩ .genericRead .all]

theorem counters_exact_sharedOutput :
    empty.opened sharedOutput + 1 < UInt32.size ∧
    (run sharedOutput).object? ⟨1⟩ = some ⟨.output ⟨80, 300⟩ ⟨80, 25⟩, ⟨2, 2, 1, 2, 2⟩, true⟩ ∧
    (⟨2, 2, 1, 2, 2⟩ : SharingCounts).Tallies ((run sharedOutput).handlesOn ⟨1⟩) := by
  have hRoom : empty.opened sharedOutput + 1 < UInt32.size := by decide
  have hObject : (run sharedOutput).object? ⟨1⟩ =
      some ⟨.output ⟨80, 300⟩ ⟨80, 25⟩, ⟨2, 2, 1, 2, 2⟩, true⟩ := by decide
  obtain ⟨_, hTallies, _⟩ := counters_exact sharedOutput (Nat.lt_of_succ_lt hRoom)
  exact ⟨hRoom, hObject, hTallies _ _ hObject⟩

end Registry

end ConsoleHost
