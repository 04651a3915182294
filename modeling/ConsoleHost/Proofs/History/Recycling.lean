import ConsoleHost.Proofs.History.Serving
import Mathlib.Data.List.Induction

/-! Which buffer a pool gives to another application, over everything that it was ever asked for. A stamp counts the
requests up to the last one that was served with the buffer, and so tells in which order buffers were lent out. -/

namespace ConsoleHost.HistoryPool

inductive Operation where
  | request (appName : String) (pid : UInt32)
  | giveBack (pid : UInt32)

def Operation.isRequest : Operation → Bool
  | request .. => true
  | giveBack _ => false

def apply (pool : HistoryPool) : Operation → HistoryPool
  | .request appName pid => pool.request appName pid
  | .giveBack pid => pool.giveBack pid

def run (capacity : Nat) (ops : List Operation) : HistoryPool := ops.foldl apply (ofCapacity capacity)

/-- Some process has the buffer at this place. -/
def Taken (pool : HistoryPool) (i : Nat) : Prop := ∃ b, pool.Lends i b

/-- The operation is a request, and the buffer at this place is the one that it gets. -/
structure Grants (pool : HistoryPool) (op : Operation) (i : Nat) : Prop where
  request : op.isRequest = true
  free : ¬pool.Taken i
  taken : (pool.apply op).Taken i

/-- The buffer at this place was lent out in this turn. -/
def LentAt (capacity : Nat) (ops : List Operation) (turn i : Nat) : Prop :=
  ∃ op, ops[turn]? = some op ∧ (run capacity (ops.take turn)).Grants op i

/-- It was lent out in this turn and in none after it. -/
structure LastLentAt (capacity : Nat) (ops : List Operation) (turn i : Nat) : Prop where
  lent : LentAt capacity ops turn i
  last : ∀ later, LentAt capacity ops later i → later ≤ turn

/-- One place was last lent out before the other was. -/
def LentBefore (capacity : Nat) (ops : List Operation) (i j : Nat) : Prop :=
  ∃ turn later, LastLentAt capacity ops turn i ∧ LastLentAt capacity ops later j ∧ turn < later

def requests (ops : List Operation) : Nat := ops.countP Operation.isRequest

def stamp? (pool : HistoryPool) (i : Nat) : Option Nat := pool.buffers[i]?.map HistoryBuffer.lastUsed

variable {pool : HistoryPool} {capacity turn later i j : Nat} {op : Operation} {ops : List Operation}

/-! One operation. -/

/-- No operation changes how many buffers there may be. -/
theorem capacity_apply : (pool.apply op).capacity = pool.capacity := by
  cases op with
  | request => exact capacity_request
  | giveBack => exact capacity_giveBack

/-- The clock counts the requests. -/
theorem clock_apply : (pool.apply op).clock = pool.clock + requests [op] := by
  cases op with
  | request => exact clock_request
  | giveBack => exact clock_giveBack

/-- There are never more buffers than the pool may have. -/
theorem Fits.apply (fits : pool.Fits) : (pool.apply op).Fits := by
  cases op with
  | request => exact fits.request
  | giveBack => exact fits.giveBack

/-- A place that is owned after a request and was not before is the place it granted. -/
theorem grants_of_written {appName : String} {pid : UInt32} {lent : HistoryBuffer}
    (hFree : ∀ b : HistoryBuffer, pool.buffers[i]? = some b → b.owner = none)
    (hWritten : (pool.request appName pid).buffers[i]? = some lent) (hOwned : lent.owner ≠ none) :
    pool.Grants (.request appName pid) i := by
  refine ⟨rfl, ?_, lent, hWritten, hOwned⟩
  rintro ⟨b, hb, hTaken⟩
  exact hTaken (hFree b hb)

/-- A request that writes a free place grants it. -/
theorem grants_of_exchange {appName name : String} {pid : UInt32} {stamp : Nat} {b : HistoryBuffer}
    (hPlace : pool.buffers[i]? = some b) (hFree : b.owner = none)
    (hNext : pool.request appName pid = pool.exchange i ⟨name, some pid, stamp⟩) :
    pool.Grants (.request appName pid) i := by
  have hWritten : (pool.request appName pid).buffers[i]? = some ⟨name, some pid, stamp⟩ := by
    rw [hNext]
    exact List.getElem?_set_self (List.getElem?_eq_some_iff.1 hPlace).1
  apply grants_of_written _ hWritten (Option.some_ne_none pid)
  intro c hc
  cases hPlace.symm.trans hc
  exact hFree

/-- A request gets a buffer exactly when it is offered one. -/
theorem exists_grants_iff (pool : HistoryPool) (appName : String) (pid : UInt32) :
    (∃ i, pool.Grants (.request appName pid) i) ↔ ∃ name, pool.offer? appName = .ok name := by
  have serving := serving_request pool appName pid
  generalize hNext : pool.request appName pid = pool' at serving
  generalize pool.offer? appName = answer at serving
  cases serving with
  | refused =>
      apply iff_of_false
      · rintro ⟨i, -, hNot, hTaken⟩
        rw [apply, hNext] at hTaken
        exact hNot hTaken
      · rintro ⟨name, hName⟩
        cases hName
  | kept hPlace matching => exact iff_of_true ⟨_, grants_of_exchange hPlace matching.1 hNext⟩ ⟨_, rfl⟩
  | added =>
      have hWritten : (pool.request appName pid).buffers[pool.buffers.length]? =
          some ⟨appName, some pid, pool.clock + 1⟩ := by
        rw [hNext]
        exact List.getElem?_concat_length
      refine iff_of_true ⟨_, grants_of_written ?_ hWritten (Option.some_ne_none pid)⟩ ⟨_, rfl⟩
      intro c hc
      simp at hc
  | recycled _ _ hPlace hFree => exact iff_of_true ⟨_, grants_of_exchange hPlace hFree hNext⟩ ⟨_, rfl⟩

/-- An operation stamps the buffer that it lends with the present time, and no other. -/
theorem stamped_apply (pool : HistoryPool) (op : Operation) :
    (∃ i, (∀ j, pool.Grants op j ↔ j = i) ∧
      ∀ j, (pool.apply op).stamp? j = if j = i then some (pool.clock + 1) else pool.stamp? j) ∨
    ((∀ j, ¬pool.Grants op j) ∧ ∀ j, (pool.apply op).stamp? j = pool.stamp? j) := by
  cases op with
  | giveBack pid =>
      right
      constructor
      · intro j grants
        cases grants.request
      · intro j
        rcases giveBack_cases pool pid with ⟨_, hSame⟩ | ⟨i, b, hb, _, hBuffers⟩
        · rw [apply, hSame]
        · rw [stamp?, apply, hBuffers]
          split
          · next hj => rw [stamp?, hj, hb]; rfl
          · rfl
  | request appName pid =>
      rcases request_cases pool appName pid with hSame | ⟨i, lent, hOwner, hStamp, _, hFree, hBuffers⟩
      · right
        constructor
        · rintro j ⟨_, hNot, b, hb, hOwned⟩
          rw [apply, hSame] at hb
          exact hNot ⟨b, hb, hOwned⟩
        · intro j
          rw [stamp?, apply, hSame, stamp?]
      · left
        have hOwned : lent.owner ≠ none := by
          rw [hOwner]
          exact Option.some_ne_none pid
        refine ⟨i, fun j => ⟨?_, ?_⟩, fun j => ?_⟩
        · rintro ⟨_, hNot, b, hb, hTaken⟩
          rw [apply, hBuffers] at hb
          split at hb
          · assumption
          · exact absurd ⟨b, hb, hTaken⟩ hNot
        · rintro rfl
          exact grants_of_written hFree ((hBuffers j).trans (if_pos rfl)) hOwned
        · rw [stamp?, apply, hBuffers]
          split
          · rw [Option.map_some, hStamp]
          · rfl

/-- One operation grants at most one place. -/
theorem Grants.unique (here : pool.Grants op i) (there : pool.Grants op j) : i = j := by
  rcases stamped_apply pool op with ⟨k, hGrants, _⟩ | ⟨hNone, _⟩
  · exact ((hGrants i).1 here).trans ((hGrants j).1 there).symm
  · exact absurd here (hNone i)

/-! A sequence of operations, from its end. -/

theorem run_concat : run capacity (ops ++ [op]) = (run capacity ops).apply op := by
  rw [run, List.foldl_append]
  rfl

theorem requests_append (first second : List Operation) :
    requests (first ++ second) = requests first + requests second :=
  List.countP_append

/-- A place is lent at a turn that has been played. -/
theorem LentAt.lt_length (lent : LentAt capacity ops turn i) : turn < ops.length := by
  obtain ⟨op, hOp, _⟩ := lent
  exact (List.getElem?_eq_some_iff.1 hOp).1

/-- With one more operation, the turns at which a place was lent are those before and the last, if that
grants the place. -/
theorem lentAt_concat_iff :
    LentAt capacity (ops ++ [op]) turn i ↔
      LentAt capacity ops turn i ∨ (turn = ops.length ∧ (run capacity ops).Grants op i) := by
  rcases Nat.lt_trichotomy turn ops.length with hBefore | rfl | hBeyond
  · rw [LentAt, LentAt, List.getElem?_append_left hBefore, List.take_append_of_le_length (Nat.le_of_lt hBefore)]
    simp [Nat.ne_of_lt hBefore]
  · simp [LentAt]
  · apply iff_of_false
    · intro lent
      have hTurn := lent.lt_length
      rw [List.length_append, List.length_singleton] at hTurn
      omega
    · rintro (lent | ⟨hTurn, _⟩)
      · have hTurn := lent.lt_length
        omega
      · omega

/-- An operation that does not grant a place leaves its last turn. -/
theorem LastLentAt.concat (lent : LastLentAt capacity ops turn i) (h : ¬(run capacity ops).Grants op i) :
    LastLentAt capacity (ops ++ [op]) turn i := by
  constructor
  · exact lentAt_concat_iff.2 (.inl lent.lent)
  · intro later hLater
    rcases lentAt_concat_iff.1 hLater with hBefore | ⟨_, grants⟩
    · exact lent.last later hBefore
    · exact absurd grants h

/-- An operation that grants a place is its last turn. -/
theorem Grants.lastLentAt (grants : (run capacity ops).Grants op i) :
    LastLentAt capacity (ops ++ [op]) ops.length i := by
  constructor
  · exact lentAt_concat_iff.2 (.inr ⟨rfl, grants⟩)
  · intro later hLater
    rcases lentAt_concat_iff.1 hLater with hBefore | ⟨hTurn, _⟩
    · exact Nat.le_of_lt hBefore.lt_length
    · exact Nat.le_of_eq hTurn

/-! Turns and stamps. -/

/-- The stamp of a buffer that is lent out in this turn. -/
theorem LentAt.requests_eq (lent : LentAt capacity ops turn i) :
    requests (ops.take (turn + 1)) = requests (ops.take turn) + 1 := by
  obtain ⟨op, hOp, grants⟩ := lent
  rw [List.take_add_one, hOp, requests_append]
  simp [requests, grants.request]

/-- The number of requests grows with the operations. -/
theorem requests_take_le {m n : Nat} (h : m ≤ n) : requests (ops.take m) ≤ requests (ops.take n) :=
  (List.take_sublist_take_left h).countP_le

/-- Every lending is a request, so a later one has a greater stamp. -/
theorem LentAt.requests_lt (lent : LentAt capacity ops later j) (h : turn < later) :
    requests (ops.take (turn + 1)) < requests (ops.take (later + 1)) := by
  have hLe : requests (ops.take (turn + 1)) ≤ requests (ops.take later) := requests_take_le h
  have hStamp := lent.requests_eq
  omega

/-- No turn lends out two buffers. -/
theorem LentAt.unique (here : LentAt capacity ops turn i) (there : LentAt capacity ops turn j) : i = j := by
  obtain ⟨op, hOp, grants⟩ := here
  obtain ⟨op', hOp', grants'⟩ := there
  cases hOp.symm.trans hOp'
  exact grants.unique grants'

/-- A place has one last turn. -/
theorem LastLentAt.unique (this : LastLentAt capacity ops turn i) (that : LastLentAt capacity ops later i) :
    turn = later :=
  Nat.le_antisymm (that.last turn this.lent) (this.last later that.lent)

/-- Of two places only one was lent longer ago. -/
theorem LentBefore.asymm (before : LentBefore capacity ops i j) : ¬LentBefore capacity ops j i := by
  rintro ⟨turn, later, hj, hi, hLt⟩
  obtain ⟨turn', later', hi', hj', hLt'⟩ := before
  rw [hi.unique hi', hj.unique hj'] at hLt
  exact Nat.lt_asymm hLt hLt'

/-- The clock counts the requests, and every buffer bears the time of the last one that it was lent to. -/
structure Dated (capacity : Nat) (ops : List Operation) : Prop where
  capacity_eq : (run capacity ops).capacity = capacity
  fits : (run capacity ops).Fits
  clock_eq : (run capacity ops).clock = requests ops
  stamp : ∀ i stamp, (run capacity ops).stamp? i = some stamp →
    ∃ turn, LastLentAt capacity ops turn i ∧ stamp = requests (ops.take (turn + 1))

/-- The stamps keep the date of the last lending through one more operation. -/
theorem Dated.concat (dated : Dated capacity ops) (op : Operation) : Dated capacity (ops ++ [op]) := by
  -- A buffer that is not lent now has the stamp and the turn that it had.
  have hKept {j stamp : Nat} (h : (run capacity ops).stamp? j = some stamp)
      (hNot : ¬(run capacity ops).Grants op j) :
      ∃ turn, LastLentAt capacity (ops ++ [op]) turn j ∧ stamp = requests ((ops ++ [op]).take (turn + 1)) := by
    obtain ⟨turn, hLast, hStamp⟩ := dated.stamp j stamp h
    refine ⟨turn, hLast.concat hNot, ?_⟩
    rw [hStamp, List.take_append_of_le_length (Nat.succ_le_of_lt hLast.lent.lt_length)]
  constructor
  · rw [run_concat, capacity_apply, dated.capacity_eq]
  · rw [run_concat]
    exact dated.fits.apply
  · rw [run_concat, clock_apply, dated.clock_eq, requests_append]
  · intro j stamp h
    rw [run_concat] at h
    rcases stamped_apply (run capacity ops) op with ⟨i, hGrants, hStamps⟩ | ⟨hNone, hStamps⟩
    · rw [hStamps] at h
      split at h
      · next hj =>
          have grants := (hGrants j).2 hj
          refine ⟨ops.length, grants.lastLentAt, ?_⟩
          have hAll : (ops ++ [op]).take (ops.length + 1) = ops ++ [op] := List.take_of_length_le (by simp)
          rw [hAll, requests_append, ← Option.some.inj h, dated.clock_eq]
          simp [requests, grants.request]
      · next hj => exact hKept h fun grants => hj ((hGrants j).1 grants)
    · rw [hStamps] at h
      exact hKept h (hNone j)

theorem dated_run (capacity : Nat) (ops : List Operation) : Dated capacity ops := by
  induction ops using List.reverseRecOn with
  | nil => exact ⟨rfl, Nat.zero_le _, rfl, fun i stamp h => by simp [run, stamp?, ofCapacity] at h⟩
  | append_singleton ops op ih => exact ih.concat op

/-- The stamp of a buffer is the number of requests up to its last lending. -/
theorem Dated.turn_of_getElem? (dated : Dated capacity ops) {b : HistoryBuffer}
    (hb : (run capacity ops).buffers[i]? = some b) :
    ∃ turn, LastLentAt capacity ops turn i ∧ b.lastUsed = requests (ops.take (turn + 1)) := by
  apply dated.stamp
  rw [stamp?, hb, Option.map_some]

/-- Of two places, the one that does not bear the later stamp was lent out before the other. -/
theorem Dated.lentBefore_of_le (dated : Dated capacity ops) {b c : HistoryBuffer}
    (hb : (run capacity ops).buffers[i]? = some b) (hc : (run capacity ops).buffers[j]? = some c) (hj : j ≠ i)
    (hLe : b.lastUsed ≤ c.lastUsed) : LentBefore capacity ops i j := by
  obtain ⟨turn, hFirst, hStamp⟩ := dated.turn_of_getElem? hb
  obtain ⟨later, hSecond, hStamp'⟩ := dated.turn_of_getElem? hc
  refine ⟨turn, later, hFirst, hSecond, ?_⟩
  rcases Nat.lt_trichotomy turn later with hLt | rfl | hGt
  · exact hLt
  · exact absurd (hSecond.lent.unique hFirst.lent) hj
  · have hOlder := hFirst.lent.requests_lt hGt
    omega

/-- Two buffers never have the same stamp. -/
theorem Dated.stamp_injective (dated : Dated capacity ops) {b c : HistoryBuffer}
    (hb : (run capacity ops).buffers[i]? = some b) (hc : (run capacity ops).buffers[j]? = some c)
    (hSame : b.lastUsed = c.lastUsed) : i = j := by
  by_contra hij
  have before := dated.lentBefore_of_le hb hc (Ne.symm hij) (Nat.le_of_eq hSame)
  exact before.asymm (dated.lentBefore_of_le hc hb hij (Nat.le_of_eq hSame.symm))

/-- A stamp is positive and not beyond the clock. -/
theorem Dated.stamp_range (dated : Dated capacity ops) {b : HistoryBuffer} (hMem : b ∈ (run capacity ops).buffers) :
    0 < b.lastUsed ∧ b.lastUsed ≤ (run capacity ops).clock := by
  obtain ⟨i, hb⟩ := List.mem_iff_getElem?.1 hMem
  obtain ⟨turn, hLast, hStamp⟩ := dated.turn_of_getElem? hb
  rw [hStamp, dated.clock_eq]
  constructor
  · rw [hLast.lent.requests_eq]
    exact Nat.succ_pos _
  · exact (List.take_sublist _ _).countP_le

/-- What a pool does after a sequence of operations. A request is served by the order in which the places were last
lent out, and giving back frees one buffer at most. -/
structure Recycles (capacity : Nat) (ops : List Operation) : Prop where
  length_le : (run capacity ops).buffers.length ≤ capacity
  serving : ∀ appName pid, Serving (LentBefore capacity ops) (run capacity ops) appName pid
    ((run capacity ops).offer? appName) ((run capacity ops).request appName pid)
  refused_iff : ∀ appName, (∃ refusal, (run capacity ops).offer? appName = .error refusal) ↔
    (∀ b ∈ (run capacity ops).buffers, b.owner ≠ none) ∧ (run capacity ops).buffers.length = capacity
  returning : ∀ pid, Returning (run capacity ops) pid ((run capacity ops).giveBack pid)
  lent : ∀ i < (run capacity ops).buffers.length, ∃ turn, LastLentAt capacity ops turn i
  lent_iff : ∀ (turn : Nat) appName pid, ops[turn]? = some (.request appName pid) →
    ((∃ i, LentAt capacity ops turn i) ↔ ∃ name, (run capacity (ops.take turn)).offer? appName = .ok name)
  asymm : ∀ i j, LentBefore capacity ops i j → ¬LentBefore capacity ops j i
  stamp_injective : ∀ (i j : Nat) b c, (run capacity ops).buffers[i]? = some b →
    (run capacity ops).buffers[j]? = some c → b.lastUsed = c.lastUsed → i = j
  stamp_range : ∀ b ∈ (run capacity ops).buffers, 0 < b.lastUsed ∧ b.lastUsed ≤ (run capacity ops).clock

/-- A pool that started empty keeps to its capacity. What it gives to another application is the free buffer that was
lent out longest ago, and never one that somebody has. -/
theorem recycles_lent_longest_ago (capacity : Nat) (ops : List Operation) : Recycles capacity ops := by
  have dated := dated_run capacity ops
  have hLength : (run capacity ops).buffers.length ≤ capacity := by
    have hFits := dated.fits
    rwa [Fits, dated.capacity_eq] at hFits
  have serving (appName : String) (pid : UInt32) :=
    (serving_request (run capacity ops) appName pid).imp_older fun i j b c hb hc hj hLe =>
      dated.lentBefore_of_le hb hc hj (hLe b c hb hc)
  constructor
  · exact hLength
  · exact serving
  · intro appName
    rw [(serving appName 0).error_iff, dated.capacity_eq]
    exact and_congr_right fun _ => ⟨Nat.le_antisymm hLength, Nat.le_of_eq ∘ Eq.symm⟩
  · exact returning_giveBack (run capacity ops)
  · intro i hi
    obtain ⟨turn, hLast, _⟩ := dated.turn_of_getElem? (List.getElem?_eq_getElem hi)
    exact ⟨turn, hLast⟩
  · intro turn appName pid hOp
    rw [← exists_grants_iff _ appName pid]
    simp [LentAt, hOp]
  · intro i j before
    exact before.asymm
  · intro i j b c hb hc hSame
    exact dated.stamp_injective hb hc hSame
  · intro b hMem
    exact dated.stamp_range hMem

example :
    (run 2 [.request "a.exe" 1, .request "b.exe" 2, .giveBack 1, .giveBack 2, .request "c.exe" 3]).buffers =
      [⟨"c.exe", some 3, 3⟩, ⟨"b.exe", none, 2⟩] := by decide

end ConsoleHost.HistoryPool
