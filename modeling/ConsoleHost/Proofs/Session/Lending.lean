import ConsoleHost.Proofs.Session.Histories

/-! Who gets a history buffer, and which one. A request is granted exactly while fewer buffers are lent than there
may be, with a buffer of the application that asks, and what others have stays where it is and as it is. -/

namespace ConsoleHost.HistoryPool

def lentCount (pool : HistoryPool) : Nat := pool.buffers.countP fun b => b.owner.isSome

def Fits (pool : HistoryPool) : Prop := pool.buffers.length ≤ pool.capacity

/-- Any buffer that the process has is one of this application. -/
def NamedFor (pool : HistoryPool) (pid : UInt32) (appName : String) : Prop :=
  ∀ b ∈ pool.buffers, b.owner = some pid → Text.sameIgnoringAsciiCase b.appName appName = true

/-- The pool is as it was, or a buffer was asked for in the name of a process that has none and given back. -/
inductive Restored (pids : List UInt32) (pool : HistoryPool) : HistoryPool → Prop where
  | untouched : Restored pids pool pool
  | returned {appName : String} {pid : UInt32} (hNew : pid ∉ pids) :
      Restored pids pool ((pool.request appName pid).giveBack pid)

variable {pool pool' : HistoryPool} {pids : List UInt32} {appName : String} {pid : UInt32}

/-! How many buffers there are, and how many requests there were. -/

@[simp] theorem capacity_request : (pool.request appName pid).capacity = pool.capacity := by
  rw [request]
  split
  · rfl
  · next source _ => cases source <;> rfl

@[simp] theorem capacity_giveBack : (pool.giveBack pid).capacity = pool.capacity := by
  rw [giveBack]
  split <;> rfl

@[simp] theorem clock_request : (pool.request appName pid).clock = pool.clock + 1 := by
  rw [request]
  split
  · rfl
  · next source _ => cases source <;> rfl

@[simp] theorem clock_giveBack : (pool.giveBack pid).clock = pool.clock := by
  rw [giveBack]
  split <;> rfl

/-- A request keeps the pool within its capacity. -/
theorem Fits.request (fits : pool.Fits) : (pool.request appName pid).Fits := by
  rw [Fits, capacity_request]
  rw [Fits] at fits
  rw [HistoryPool.request]
  split
  · exact fits
  · next source hSource =>
      cases serves_of_source? hSource with
      | kept => simpa [lend, tick] using fits
      | added hRoom => simpa [lend, tick] using Nat.succ_le_of_lt hRoom
      | recycled => simpa [lend, tick] using fits

/-- Giving back keeps the pool within its capacity. -/
theorem Fits.giveBack (fits : pool.Fits) : (pool.giveBack pid).Fits := by
  rw [Fits, capacity_giveBack, HistoryPool.giveBack]
  rw [Fits] at fits
  split
  · exact fits
  · simpa using fits

/-- No more buffers are lent than there are. -/
theorem lentCount_le_length : pool.lentCount ≤ pool.buffers.length := List.countP_le_length

/-- Where a buffer is free, fewer are lent than there are. -/
theorem lentCount_lt_length {i : Nat} {b : HistoryBuffer} (hb : pool.buffers[i]? = some b)
    (hFree : b.owner = none) : pool.lentCount < pool.buffers.length := by
  have hSome : ∃ c ∈ pool.buffers, ¬c.owner.isSome = true := ⟨b, List.mem_of_getElem? hb, by simp [hFree]⟩
  have hNe : pool.lentCount ≠ pool.buffers.length := by
    intro hAll
    obtain ⟨c, hMem, hFreed⟩ := hSome
    exact hFreed (List.countP_eq_length.1 hAll c hMem)
  have hLe := pool.lentCount_le_length
  omega

theorem capacity_foldl_giveBack : (pids.foldl giveBack pool).capacity = pool.capacity := by
  induction pids generalizing pool with
  | nil => rfl
  | cons pid rest ih => rw [List.foldl_cons, ih, capacity_giveBack]

theorem Fits.foldl_giveBack (fits : pool.Fits) : (pids.foldl HistoryPool.giveBack pool).Fits := by
  induction pids generalizing pool with
  | nil => exact fits
  | cons pid rest ih => exact ih fits.giveBack

/-! Who has them. -/

/-- A request leaves what others have. -/
theorem lends_request_iff {i : Nat} {b : HistoryBuffer} (hOther : b.owner ≠ some pid) :
    (pool.request appName pid).Lends i b ↔ pool.Lends i b := by
  rcases request_cases pool appName pid with hSame | ⟨k, new, hNew, _, _, hFree, hBuffers⟩
  · rw [Lends, Lends, hSame]
  · rw [Lends, Lends, hBuffers]
    by_cases hi : i = k
    · subst hi
      rw [if_pos rfl]
      constructor
      · rintro ⟨hb, _⟩
        cases hb
        exact absurd hNew hOther
      · rintro ⟨hb, hOwned⟩
        exact absurd (hFree b hb) hOwned
    · rw [if_neg hi]

/-- Nobody gets anything when a buffer is given back. -/
theorem Lends.of_giveBack {i : Nat} {b : HistoryBuffer} (lends : (pool.giveBack pid).Lends i b) :
    pool.Lends i b := by
  rcases giveBack_cases pool pid with ⟨_, hSame⟩ | ⟨k, c, _, _, hBuffers⟩
  · exact hSame ▸ lends
  · obtain ⟨hb, hOwned⟩ := lends
    rw [hBuffers] at hb
    split at hb
    · cases hb
      exact absurd rfl hOwned
    · exact ⟨hb, hOwned⟩

/-- A process that has no more than before has it under the same name. -/
theorem NamedFor.of_lends (named : pool.NamedFor pid appName)
    (h : ∀ i b, pool'.Lends i b → b.owner = some pid → pool.Lends i b) : pool'.NamedFor pid appName := by
  intro b hMem hOwner
  obtain ⟨i, hb⟩ := List.mem_iff_getElem?.1 hMem
  have hOwned : b.owner ≠ none := by
    rw [hOwner]
    exact Option.some_ne_none pid
  obtain ⟨hWas, -⟩ := h i b ⟨hb, hOwned⟩ hOwner
  exact named b (List.mem_of_getElem? hWas) hOwner

/-- The buffer that a process gets is one of its application. -/
theorem LentTo.namedFor_request (lent : pool.LentTo pids) (hNew : pid ∉ pids) :
    (pool.request appName pid).NamedFor pid appName := by
  intro b hMem hOwner
  obtain ⟨i, hb⟩ := List.mem_iff_getElem?.1 hMem
  have hBefore {j : Nat} {c : HistoryBuffer} (hc : pool.buffers[j]? = some c) : c.owner ≠ some pid :=
    fun hOwned => hNew (lent.mem j c pid hc hOwned)
  rcases request_cases pool appName pid with hSame | ⟨k, new, _, _, hName, _, hBuffers⟩
  · rw [hSame] at hb
    exact absurd hOwner (hBefore hb)
  · rw [hBuffers] at hb
    split at hb
    · cases hb
      exact hName
    · exact absurd hOwner (hBefore hb)

/-- A request for a process that has nothing takes nothing from anybody. -/
theorem LentTo.lends_request (lent : pool.LentTo pids) (hNew : pid ∉ pids) {i : Nat} {b : HistoryBuffer}
    (lends : pool.Lends i b) : (pool.request appName pid).Lends i b := by
  refine (lends_request_iff ?_).2 lends
  intro hOwner
  exact hNew (lent.mem i b pid lends.1 hOwner)

/-- Who has no buffer gets one exactly while fewer are lent than there may be. -/
theorem LentTo.obtains_iff (lent : pool.LentTo pids) (fits : pool.Fits) (hNew : pid ∉ pids) :
    (∃ b ∈ (pool.request appName pid).buffers, b.owner = some pid) ↔ pool.lentCount < pool.capacity := by
  rw [Fits] at fits
  have hLe := pool.lentCount_le_length
  cases hSource : pool.source? appName with
  | none =>
      obtain ⟨hFull, hLent⟩ := exhausted_of_source? hSource
      have hAll : pool.lentCount = pool.buffers.length :=
        List.countP_eq_length.2 fun b hMem => Option.isSome_iff_ne_none.2 (hLent b hMem)
      have hSame : (pool.request appName pid).buffers = pool.buffers := by simp [HistoryPool.request, hSource, tick]
      refine iff_of_false ?_ (by omega)
      rintro ⟨b, hMem, hOwner⟩
      rw [hSame] at hMem
      obtain ⟨i, hb⟩ := List.mem_iff_getElem?.1 hMem
      exact hNew (lent.mem i b pid hb hOwner)
  | some source =>
      have serves := serves_of_source? hSource
      have hObtained : ∃ b ∈ (pool.request appName pid).buffers, b.owner = some pid := by
        simp only [HistoryPool.request, hSource]
        cases serves with
        | @kept i b hb =>
            refine ⟨_, List.mem_of_getElem? ((getElem?_modify_of_some hb _ i).trans (if_pos rfl)), ?_⟩
            rfl
        | added => exact ⟨_, List.mem_append_right _ (List.mem_singleton_self _), rfl⟩
        | @recycled i b hb =>
            refine ⟨_, List.mem_of_getElem? ((getElem?_modify_of_some hb _ i).trans (if_pos rfl)), ?_⟩
            rfl
      refine iff_of_true hObtained ?_
      cases serves with
      | kept hb hFree =>
          have hLt := lentCount_lt_length hb hFree
          omega
      | added hRoom => omega
      | recycled hb hFree =>
          have hLt := lentCount_lt_length hb hFree
          omega

/-! A request that was taken back. -/

/-- A pool that is restored has the capacity it had. -/
theorem Restored.capacity_eq (restored : Restored pids pool pool') : pool'.capacity = pool.capacity := by
  cases restored with
  | untouched => rfl
  | returned => rw [capacity_giveBack, capacity_request]

/-- A pool that is restored is within its capacity. -/
theorem Restored.fits (restored : Restored pids pool pool') (fits : pool.Fits) : pool'.Fits := by
  cases restored with
  | untouched => exact fits
  | returned => exact fits.request.giveBack

/-- A pool that is restored lends what it lent before. -/
theorem Restored.lends_iff (restored : Restored pids pool pool') (lent : pool.LentTo pids) {i : Nat}
    {b : HistoryBuffer} : pool'.Lends i b ↔ pool.Lends i b := by
  cases restored with
  | untouched => exact Iff.rfl
  | returned hNew => exact lent.lends_giveBack_request hNew i b

end ConsoleHost.HistoryPool
