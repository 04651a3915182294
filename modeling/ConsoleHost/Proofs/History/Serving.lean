import ConsoleHost.Proofs.Session.Lending

/-! How a request for a history buffer is served, and what giving one back comes to. Either of them touches one buffer
at most. Which one a request touches depends on what others have, on the names, and on a relation between places that
tells which of two was lent out before the other. -/

namespace ConsoleHost.HistoryPool

variable {pool pool' : HistoryPool} {appName : String} {pid : UInt32} {i : Nat} {b : HistoryBuffer}

/-- Nobody has this buffer, and its name is that of the application, whatever the case of ASCII letters. -/
def Matches (appName : String) (b : HistoryBuffer) : Prop :=
  b.owner = none ∧ Text.sameIgnoringAsciiCase b.appName appName = true

/-- The pool after a request that was served from one place. -/
def exchange (pool : HistoryPool) (i : Nat) (b : HistoryBuffer) : HistoryPool :=
  { pool.tick with buffers := pool.buffers.set i b }

/-- Everything that a request can come to: the name of the buffer that is lent, or the refusal, and the pool after
it. `older` is the order in which places were lent out. -/
inductive Serving (older : Nat → Nat → Prop) (pool : HistoryPool) (appName : String) (pid : UInt32) :
    Except HistoryError String → HistoryPool → Prop where
  | refused (hBusy : ∀ b ∈ pool.buffers, b.owner ≠ none) (hFull : pool.capacity ≤ pool.buffers.length) :
      Serving older pool appName pid (.error (.exhausted pool.capacity)) pool.tick
  | kept {i : Nat} {b : HistoryBuffer} (hPlace : pool.buffers[i]? = some b) (matching : Matches appName b)
      (hFirst : ∀ (j : Nat) c, j < i → pool.buffers[j]? = some c → ¬Matches appName c) :
      Serving older pool appName pid (.ok b.appName) (pool.exchange i ⟨b.appName, some pid, pool.clock + 1⟩)
  | added (hNone : ∀ b ∈ pool.buffers, ¬Matches appName b) (hRoom : pool.buffers.length < pool.capacity) :
      Serving older pool appName pid (.ok appName)
        { pool.tick with buffers := pool.buffers ++ [⟨appName, some pid, pool.clock + 1⟩] }
  | recycled {i : Nat} {b : HistoryBuffer} (hNone : ∀ b ∈ pool.buffers, ¬Matches appName b)
      (hFull : pool.capacity ≤ pool.buffers.length) (hPlace : pool.buffers[i]? = some b) (hFree : b.owner = none)
      (hOldest : ∀ (j : Nat) c, pool.buffers[j]? = some c → c.owner = none → j ≠ i → older i j) :
      Serving older pool appName pid (.ok appName) (pool.exchange i ⟨appName, some pid, pool.clock + 1⟩)

/-- The first buffer of the process is free and all else is as before, or the process has none and nothing happens. -/
inductive Returning (pool : HistoryPool) (pid : UInt32) : HistoryPool → Prop where
  | absent (hNone : ∀ b ∈ pool.buffers, b.owner ≠ some pid) : Returning pool pid pool
  | detached {i : Nat} {b : HistoryBuffer} (hPlace : pool.buffers[i]? = some b) (hOwner : b.owner = some pid)
      (hFirst : ∀ (j : Nat) c, j < i → pool.buffers[j]? = some c → c.owner ≠ some pid) :
      Returning pool pid { pool with buffers := pool.buffers.set i { b with owner := none } }

/-- By its stamp, one place was lent out no later than the other. -/
def Precedes (pool : HistoryPool) (i j : Nat) : Prop :=
  ∀ b c, pool.buffers[i]? = some b → pool.buffers[j]? = some c → b.lastUsed ≤ c.lastUsed

theorem suits_iff : b.suits appName = true ↔ Matches appName b := by
  simp [HistoryBuffer.suits, HistoryBuffer.isFree, Matches]

theorem isOwnedBy_iff : isOwnedBy pid b = true ↔ b.owner = some pid := by
  simp [isOwnedBy]

theorem modify_of_some (hPlace : pool.buffers[i]? = some b) (f : HistoryBuffer → HistoryBuffer) :
    pool.buffers.modify i f = pool.buffers.set i (f b) := by
  rw [List.modify_eq_set_getElem?, hPlace]
  rfl

/-- The first place for which a test holds, with the buffer there. -/
theorem first_of_findIdx? {test : HistoryBuffer → Bool} (h : pool.buffers.findIdx? test = some i) :
    ∃ b, pool.buffers[i]? = some b ∧ test b = true ∧
      ∀ (j : Nat) c, j < i → pool.buffers[j]? = some c → ¬test c = true := by
  obtain ⟨hLength, hTest, hBefore⟩ := List.findIdx?_eq_some_iff_getElem.1 h
  refine ⟨pool.buffers[i], List.getElem?_eq_getElem hLength, hTest, ?_⟩
  intro j c hj hc
  obtain ⟨_, rfl⟩ := List.getElem?_eq_some_iff.1 hc
  exact hBefore j hj

theorem serving_request (pool : HistoryPool) (appName : String) (pid : UInt32) :
    Serving pool.Precedes pool appName pid (pool.offer? appName) (pool.request appName pid) := by
  cases hFind : pool.buffers.findIdx? fun b => b.suits appName with
  | some i =>
      obtain ⟨b, hPlace, hSuits, hBefore⟩ := first_of_findIdx? hFind
      have hSource : pool.source? appName = some (.kept i) := by simp [source?, hFind]
      have hOffer : pool.offer? appName = .ok b.appName := by simp [offer?, hSource, hPlace]
      have hRequest : pool.request appName pid = pool.exchange i ⟨b.appName, some pid, pool.clock + 1⟩ := by
        simp [request, hSource, lend, tick, exchange, modify_of_some hPlace]
      rw [hOffer, hRequest]
      apply Serving.kept hPlace (suits_iff.1 hSuits)
      intro j c hj hc hMatches
      exact hBefore j c hj hc (suits_iff.2 hMatches)
  | none =>
      have hNone : ∀ b ∈ pool.buffers, ¬Matches appName b := by
        intro b hMem hMatches
        have hUnsuited := List.findIdx?_eq_none_iff.1 hFind b hMem
        rw [suits_iff.2 hMatches] at hUnsuited
        cases hUnsuited
      by_cases hRoom : pool.buffers.length < pool.capacity
      · have hSource : pool.source? appName = some .added := by simp [source?, hFind, hRoom]
        simp only [offer?, request, hSource]
        exact Serving.added hNone hRoom
      · have hFull := Nat.le_of_not_lt hRoom
        cases hOldest : oldestFree? pool.buffers with
        | none =>
            have hSource : pool.source? appName = none := by simp [source?, hFind, hRoom, hOldest]
            simp only [offer?, request, hSource]
            exact Serving.refused (oldestFree?_eq_none_iff.1 hOldest) hFull
        | some found =>
            obtain ⟨i, stamp⟩ := found
            obtain ⟨b, hPlace, hFree, hStamp, hLeast⟩ := oldest_of_oldestFree? hOldest
            have hSource : pool.source? appName = some (.recycled i) := by simp [source?, hFind, hRoom, hOldest]
            have hOffer : pool.offer? appName = .ok appName := by simp [offer?, hSource]
            have hRequest : pool.request appName pid = pool.exchange i ⟨appName, some pid, pool.clock + 1⟩ := by
              simp [request, hSource, lend, tick, exchange, modify_of_some hPlace]
            rw [hOffer, hRequest]
            apply Serving.recycled hNone hFull hPlace hFree
            intro j c hc hcFree _ b' c' hb' hc'
            cases hPlace.symm.trans hb'
            cases hc.symm.trans hc'
            rw [hStamp]
            exact hLeast c (List.mem_of_getElem? hc) hcFree

/-- What the stamps say may be replaced by what else is known of the order of places. -/
theorem Serving.imp_older {older later : Nat → Nat → Prop} {answer : Except HistoryError String}
    (serving : Serving older pool appName pid answer pool')
    (h : ∀ i j b c, pool.buffers[i]? = some b → pool.buffers[j]? = some c → j ≠ i → older i j → later i j) :
    Serving later pool appName pid answer pool' := by
  cases serving with
  | refused hBusy hFull => exact .refused hBusy hFull
  | kept hPlace matching hFirst => exact .kept hPlace matching hFirst
  | added hNone hRoom => exact .added hNone hRoom
  | recycled hNone hFull hPlace hFree hOldest =>
      refine .recycled hNone hFull hPlace hFree fun j c hc hcFree hj => ?_
      exact h _ j _ c hPlace hc hj (hOldest j c hc hcFree hj)

/-- A request is refused exactly when everything is lent and there can be no more, and then changes no buffer. -/
theorem Serving.error_iff {older : Nat → Nat → Prop} {answer : Except HistoryError String}
    (serving : Serving older pool appName pid answer pool') :
    (∃ refusal, answer = .error refusal) ↔
      (∀ b ∈ pool.buffers, b.owner ≠ none) ∧ pool.capacity ≤ pool.buffers.length := by
  cases serving with
  | refused hBusy hFull => exact iff_of_true ⟨_, rfl⟩ ⟨hBusy, hFull⟩
  | @kept i b hPlace matching =>
      refine iff_of_false ?_ fun h => h.1 b (List.mem_of_getElem? hPlace) matching.1
      rintro ⟨refusal, hRefused⟩
      cases hRefused
  | added hNone hRoom =>
      refine iff_of_false ?_ fun h => Nat.not_le_of_lt hRoom h.2
      rintro ⟨refusal, hRefused⟩
      cases hRefused
  | @recycled i b hNone hFull hPlace hFree =>
      refine iff_of_false ?_ fun h => h.1 b (List.mem_of_getElem? hPlace) hFree
      rintro ⟨refusal, hRefused⟩
      cases hRefused

theorem returning_giveBack (pool : HistoryPool) (pid : UInt32) : Returning pool pid (pool.giveBack pid) := by
  cases hFind : pool.buffers.findIdx? (isOwnedBy pid) with
  | none =>
      have hSame : pool.giveBack pid = pool := by simp [giveBack, hFind]
      rw [hSame]
      apply Returning.absent
      intro b hMem hOwner
      have hUnowned := List.findIdx?_eq_none_iff.1 hFind b hMem
      rw [isOwnedBy_iff.2 hOwner] at hUnowned
      cases hUnowned
  | some i =>
      obtain ⟨b, hPlace, hOwned, hBefore⟩ := first_of_findIdx? hFind
      simp only [giveBack, hFind, modify_of_some hPlace]
      apply Returning.detached hPlace (isOwnedBy_iff.1 hOwned)
      intro j c hj hc hOwner
      exact hBefore j c hj hc (isOwnedBy_iff.2 hOwner)

end ConsoleHost.HistoryPool
