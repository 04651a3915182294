import ConsoleHost.History
import Mathlib.Data.List.Basic

/-! Who has which history buffer. A request takes a buffer that nobody has, and giving back frees the
buffer of one process alone. -/

namespace ConsoleHost.HistoryPool

/-- A buffer of the pool, by its place, that some process has. -/
def Lends (pool : HistoryPool) (i : Nat) (b : HistoryBuffer) : Prop :=
  pool.buffers[i]? = some b ∧ b.owner ≠ none

/-- Only these processes have buffers, and none has two. -/
structure LentTo (pool : HistoryPool) (pids : List UInt32) : Prop where
  mem : ∀ (i : Nat) (b : HistoryBuffer) pid, pool.buffers[i]? = some b →
    b.owner = some pid → pid ∈ pids
  unique : ∀ (i j : Nat) (b c : HistoryBuffer) pid, pool.buffers[i]? = some b →
    pool.buffers[j]? = some c → b.owner = some pid → c.owner = some pid → i = j

variable {pool : HistoryPool} {pids : List UInt32} {appName : String} {pid : UInt32}

theorem oldestFree?_eq_none_iff {buffers : List HistoryBuffer} :
    oldestFree? buffers = none ↔ ∀ b ∈ buffers, b.owner ≠ none := by
  induction buffers with
  | nil => simp [oldestFree?]
  | cons first rest ih =>
      rw [List.forall_mem_cons, ← ih]
      cases hOwner : first.owner with
      | some pid => simp [oldestFree?, HistoryBuffer.isFree, hOwner]
      | none =>
          cases hRest : oldestFree? rest with
          | none => simp [oldestFree?, HistoryBuffer.isFree, hOwner, hRest]
          | some found =>
              simp only [oldestFree?, HistoryBuffer.isFree, hOwner, hRest, Option.isNone_none]
              split
              · simp
              · simp

/-- The buffer that is found is free, and no free one was lent out before it. -/
theorem oldest_of_oldestFree? {buffers : List HistoryBuffer} {i stamp : Nat}
    (h : oldestFree? buffers = some (i, stamp)) :
    ∃ b, buffers[i]? = some b ∧ b.owner = none ∧ b.lastUsed = stamp ∧
      ∀ c ∈ buffers, c.owner = none → stamp ≤ c.lastUsed := by
  induction buffers generalizing i stamp with
  | nil => simp [oldestFree?] at h
  | cons first rest ih =>
      cases hFree : first.isFree with
      | false =>
          have hBusy : first.owner ≠ none := by
            intro hNone
            simp [HistoryBuffer.isFree, hNone] at hFree
          simp only [oldestFree?, hFree, Option.map_eq_some_iff, Prod.mk.injEq] at h
          obtain ⟨⟨j, later⟩, hRest, rfl, rfl⟩ := h
          obtain ⟨b, hb, hOwner, hStamp, hLeast⟩ := ih hRest
          exact ⟨b, hb, hOwner, hStamp, List.forall_mem_cons.2 ⟨fun hNone => absurd hNone hBusy, hLeast⟩⟩
      | true =>
          have hFirst : first.owner = none := by simpa [HistoryBuffer.isFree] using hFree
          cases hRest : oldestFree? rest with
          | none =>
              simp only [oldestFree?, hFree, hRest, Option.some.injEq, Prod.mk.injEq] at h
              obtain ⟨rfl, rfl⟩ := h
              have hBusy := oldestFree?_eq_none_iff.1 hRest
              refine ⟨first, rfl, hFirst, rfl, List.forall_mem_cons.2 ⟨fun _ => Nat.le_refl _, ?_⟩⟩
              intro c hMem hNone
              exact absurd hNone (hBusy c hMem)
          | some found =>
              obtain ⟨j, later⟩ := found
              obtain ⟨b, hb, hOwner, hStamp, hLeast⟩ := ih hRest
              simp only [oldestFree?, hFree, hRest] at h
              split at h
              · next hOlder =>
                  simp only [Option.some.injEq, Prod.mk.injEq] at h
                  obtain ⟨rfl, rfl⟩ := h
                  refine ⟨first, rfl, hFirst, rfl, List.forall_mem_cons.2 ⟨fun _ => Nat.le_refl _, ?_⟩⟩
                  intro c hMem hNone
                  exact Nat.le_trans hOlder (hLeast c hMem hNone)
              · next hYounger =>
                  simp only [Option.some.injEq, Prod.mk.injEq] at h
                  obtain ⟨rfl, rfl⟩ := h
                  exact ⟨b, hb, hOwner, hStamp,
                    List.forall_mem_cons.2 ⟨fun _ => Nat.le_of_lt (Nat.lt_of_not_le hYounger), hLeast⟩⟩

/-- What stands for serving a request from a source: the buffer there is free, and its name is that of the
application where it is kept, or there is room for one more. -/
inductive Serves (pool : HistoryPool) (appName : String) : Source → Prop where
  | kept {i : Nat} {b : HistoryBuffer} (hPlace : pool.buffers[i]? = some b) (hFree : b.owner = none)
      (hName : Text.sameIgnoringAsciiCase b.appName appName = true) : Serves pool appName (.kept i)
  | added (hRoom : pool.buffers.length < pool.capacity) : Serves pool appName .added
  | recycled {i : Nat} {b : HistoryBuffer} (hPlace : pool.buffers[i]? = some b) (hFree : b.owner = none) :
      Serves pool appName (.recycled i)

theorem serves_of_source? {source : Source} (h : pool.source? appName = some source) :
    pool.Serves appName source := by
  simp only [source?] at h
  split at h
  · next i hFind =>
      cases h
      obtain ⟨hLength, hSuits, _⟩ := List.findIdx?_eq_some_iff_getElem.1 hFind
      simp only [HistoryBuffer.suits, HistoryBuffer.isFree, Bool.and_eq_true,
        Option.isNone_iff_eq_none] at hSuits
      exact .kept (List.getElem?_eq_getElem hLength) hSuits.1 hSuits.2
  · split at h
    · next hRoom =>
        cases h
        exact .added hRoom
    · obtain ⟨⟨i, stamp⟩, hOldest, rfl⟩ := Option.map_eq_some_iff.1 h
      obtain ⟨b, hb, hFree, _⟩ := oldest_of_oldestFree? hOldest
      exact .recycled hb hFree

/-- A request is refused only where there is no room and no buffer is free. -/
theorem exhausted_of_source? (h : pool.source? appName = none) :
    pool.capacity ≤ pool.buffers.length ∧ ∀ b ∈ pool.buffers, b.owner ≠ none := by
  simp only [source?] at h
  split at h
  · cases h
  · split at h
    · cases h
    · next hRoom =>
        rw [Option.map_eq_none_iff] at h
        exact ⟨Nat.le_of_not_lt hRoom, oldestFree?_eq_none_iff.1 h⟩

theorem getElem?_modify_of_some {i : Nat} {b : HistoryBuffer} (hb : pool.buffers[i]? = some b)
    (f : HistoryBuffer → HistoryBuffer) (j : Nat) :
    (pool.buffers.modify i f)[j]? = if j = i then some (f b) else pool.buffers[j]? := by
  rw [List.getElem?_modify]
  by_cases hj : j = i
  · simp [hj, hb]
  · simp [hj, Ne.symm hj]

/-- A request that is granted fills one place, which was free or not there, with a buffer of the application
that bears the present time, and touches no other. -/
theorem request_cases (pool : HistoryPool) (appName : String) (pid : UInt32) :
    (pool.request appName pid).buffers = pool.buffers ∨
    ∃ i : Nat, ∃ lent : HistoryBuffer, lent.owner = some pid ∧ lent.lastUsed = pool.clock + 1 ∧
      Text.sameIgnoringAsciiCase lent.appName appName = true ∧
      (∀ b : HistoryBuffer, pool.buffers[i]? = some b → b.owner = none) ∧
      ∀ j, (pool.request appName pid).buffers[j]? = if j = i then some lent else pool.buffers[j]? := by
  cases hSource : pool.source? appName with
  | none => exact .inl (by simp [request, hSource, tick])
  | some source =>
      refine .inr ?_
      simp only [request, hSource]
      cases serves_of_source? hSource with
      | @kept i b hb hFree hName =>
          refine ⟨i, { b with owner := some pid, lastUsed := pool.tick.clock }, rfl, rfl, hName, ?_,
            getElem?_modify_of_some hb _⟩
          intro c hc
          cases hb.symm.trans hc
          exact hFree
      | added =>
          refine ⟨pool.buffers.length, ⟨appName, some pid, pool.tick.clock⟩, rfl, rfl,
            Text.sameIgnoringAsciiCase_self appName, ?_, fun j => ?_⟩
          · intro b hb
            rw [List.getElem?_eq_none (Nat.le_refl _)] at hb
            cases hb
          · simp only [lend, tick, List.getElem?_append]
            split
            · next hj => rw [if_neg (Nat.ne_of_lt hj)]
            · next hj =>
                by_cases hSame : j = pool.buffers.length
                · simp [hSame]
                · have hBeyond : pool.buffers.length < j := by omega
                  rw [if_neg hSame, List.getElem?_eq_none (Nat.le_of_lt hBeyond),
                    List.getElem?_eq_none (by simp only [List.length_singleton]; omega)]
      | @recycled i b hb hFree =>
          refine ⟨i, ⟨appName, some pid, pool.tick.clock⟩, rfl, rfl,
            Text.sameIgnoringAsciiCase_self appName, ?_, getElem?_modify_of_some hb _⟩
          intro c hc
          cases hb.symm.trans hc
          exact hFree

/-- Giving back frees the first buffer of a process, if it has one. -/
theorem giveBack_cases (pool : HistoryPool) (pid : UInt32) :
    ((∀ (i : Nat) (b : HistoryBuffer), pool.buffers[i]? = some b → b.owner ≠ some pid) ∧
      pool.giveBack pid = pool) ∨
    ∃ i : Nat, ∃ b : HistoryBuffer, pool.buffers[i]? = some b ∧ b.owner = some pid ∧
      ∀ j, (pool.giveBack pid).buffers[j]? =
        if j = i then some { b with owner := none } else pool.buffers[j]? := by
  cases hFind : pool.buffers.findIdx? (isOwnedBy pid) with
  | none =>
      refine .inl ⟨fun i b hb hOwner => ?_, by simp [giveBack, hFind]⟩
      have hNone := List.findIdx?_eq_none_iff.1 hFind b (List.mem_of_getElem? hb)
      simp [isOwnedBy, hOwner] at hNone
  | some i =>
      obtain ⟨hLength, hOwned, _⟩ := List.findIdx?_eq_some_iff_getElem.1 hFind
      have hb := List.getElem?_eq_getElem hLength
      refine .inr ⟨i, _, hb, by simpa [isOwnedBy] using hOwned, fun j => ?_⟩
      simp only [giveBack, hFind]
      exact getElem?_modify_of_some hb _ j

theorem LentTo.giveBack_of_not_mem (lent : pool.LentTo pids) (h : pid ∉ pids) :
    pool.giveBack pid = pool := by
  rcases giveBack_cases pool pid with ⟨_, hSame⟩ | ⟨i, b, hb, hOwner, _⟩
  · exact hSame
  · exact absurd (lent.mem i b pid hb hOwner) h

theorem LentTo.request (lent : pool.LentTo pids) (h : pid ∉ pids) :
    (pool.request appName pid).LentTo (pids ++ [pid]) := by
  rcases request_cases pool appName pid with hSame | ⟨i, new, hNew, _, _, _, hBuffers⟩
  · constructor
    · intro j b owner hb hOwner
      rw [hSame] at hb
      exact List.mem_append_left _ (lent.mem j b owner hb hOwner)
    · intro j k b c owner hb hc
      rw [hSame] at hb hc
      exact lent.unique j k b c owner hb hc
  · have hOld {j : Nat} {b : HistoryBuffer} (hb : (pool.request appName pid).buffers[j]? = some b) :
        (j = i ∧ b = new) ∨ (j ≠ i ∧ pool.buffers[j]? = some b) := by
      rw [hBuffers] at hb
      split at hb
      · next hj => exact .inl ⟨hj, (Option.some.inj hb).symm⟩
      · next hj => exact .inr ⟨hj, hb⟩
    constructor
    · intro j b owner hb hOwner
      rcases hOld hb with ⟨_, rfl⟩ | ⟨_, hb⟩
      · cases hNew.symm.trans hOwner
        exact List.mem_append_right _ (List.mem_singleton_self _)
      · exact List.mem_append_left _ (lent.mem j b owner hb hOwner)
    · intro j k b c owner hb hc hbOwner hcOwner
      rcases hOld hb with ⟨hj, rfl⟩ | ⟨_, hb⟩ <;> rcases hOld hc with ⟨hk, rfl⟩ | ⟨_, hc⟩
      · exact hj.trans hk.symm
      · cases hNew.symm.trans hbOwner
        exact absurd (lent.mem k c pid hc hcOwner) h
      · cases hNew.symm.trans hcOwner
        exact absurd (lent.mem j b pid hb hbOwner) h
      · exact lent.unique j k b c owner hb hc hbOwner hcOwner

theorem LentTo.giveBack (lent : pool.LentTo pids) {others : List UInt32}
    (h : ∀ q ∈ pids, q ≠ pid → q ∈ others) : (pool.giveBack pid).LentTo others := by
  rcases giveBack_cases pool pid with ⟨hNobody, hSame⟩ | ⟨i, b, hb, hOwner, hBuffers⟩
  · rw [hSame]
    refine ⟨fun j c owner hc hcOwner => ?_, lent.unique⟩
    refine h owner (lent.mem j c owner hc hcOwner) ?_
    rintro rfl
    exact hNobody j c hc hcOwner
  · have hOld {j : Nat} {c : HistoryBuffer} {owner : UInt32}
        (hc : (pool.giveBack pid).buffers[j]? = some c) (hcOwner : c.owner = some owner) :
        j ≠ i ∧ pool.buffers[j]? = some c := by
      rw [hBuffers] at hc
      split at hc
      · cases hc
        cases hcOwner
      · next hj => exact ⟨hj, hc⟩
    constructor
    · intro j c owner hc hcOwner
      obtain ⟨hj, hWas⟩ := hOld hc hcOwner
      refine h owner (lent.mem j c owner hWas hcOwner) ?_
      rintro rfl
      exact hj (lent.unique j i c b owner hWas hb hcOwner hOwner)
    · intro j k c d owner hc hd hcOwner hdOwner
      exact lent.unique j k c d owner (hOld hc hcOwner).2 (hOld hd hdOwner).2 hcOwner hdOwner

/-- A buffer that was lent and given back leaves everyone else's where they were. -/
theorem LentTo.lends_giveBack_request (lent : pool.LentTo pids) (h : pid ∉ pids) (i : Nat)
    (b : HistoryBuffer) :
    ((pool.request appName pid).giveBack pid).Lends i b ↔ pool.Lends i b := by
  rcases request_cases pool appName pid with hSame | ⟨k, new, hNew, _, _, hFree, hBuffers⟩
  · have hLent : (pool.request appName pid).LentTo pids := by
      constructor
      · rw [hSame]
        exact lent.mem
      · rw [hSame]
        exact lent.unique
    rw [hLent.giveBack_of_not_mem h, Lends, Lends, hSame]
  · rcases giveBack_cases (pool.request appName pid) pid with ⟨hNobody, _⟩ | ⟨j, c, hc, hOwner, hGiven⟩
    · exact absurd hNew (hNobody k new ((hBuffers k).trans (if_pos rfl)))
    · -- The buffer given back is the one just lent: nobody else's is in the name of `pid`.
      have hPlace : j = k := by
        by_cases hj : j = k
        · exact hj
        · rw [hBuffers, if_neg hj] at hc
          exact absurd (lent.mem j c pid hc hOwner) h
      subst hPlace
      rw [Lends, Lends, hGiven]
      by_cases hi : i = j
      · subst hi
        rw [if_pos rfl]
        constructor
        · rintro ⟨hb, hOwned⟩
          cases hb
          exact absurd rfl hOwned
        · rintro ⟨hb, hOwned⟩
          exact absurd (hFree b hb) hOwned
      · rw [if_neg hi, hBuffers, if_neg hi]

end ConsoleHost.HistoryPool
