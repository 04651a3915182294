/-!
The read end of a pipe. One read may return fewer bytes than were asked for, and may be interrupted
before it gets through. `readExact` asks again until it has all bytes; its outcome depends on the
bytes that are left and on how they end, and on nothing else.
-/

namespace ConsoleHost

/-- Bytes that are still to be read, and how the source behaves while they are. -/
structure ByteSource where
  pending : List UInt8
  /-- The most bytes that one read returns, by the number of reads before it. Zero is no limit. -/
  limit : Nat → Nat
  /-- How often a read is interrupted before it gets through, by the number of reads before it. -/
  interruptions : Nat → Nat
  /-- Reads that got through so far. -/
  reads : Nat
  /-- Interruptions since the last read that got through. -/
  interrupted : Nat
  /-- After the last byte reading fails for this reason; without one the source just ends. -/
  failure : Option String

/-- What one read answers. -/
inductive ReadAnswer where
  /-- Some bytes, or none at the end of the source. -/
  | bytes (bs : List UInt8)
  /-- Nothing was read, and asking again may help. -/
  | interrupted
  | failed (reason : String)

/-- Why fewer bytes could be read than were needed. -/
inductive Shortfall where
  | ended
  | failed (reason : String)
  deriving DecidableEq

namespace ByteSource

def ofBytes (bs : List UInt8) : ByteSource := ⟨bs, fun _ => 0, fun _ => 0, 0, 0, none⟩

/-- What reading comes to once all bytes are gone. -/
def shortfall (s : ByteSource) : Shortfall :=
  match s.failure with
  | none => .ended
  | some reason => .failed reason

/-- How many bytes the next read returns at most, if `want` are asked for. -/
def allowance (s : ByteSource) (want : Nat) : Nat :=
  if s.limit s.reads = 0 then want else min want (s.limit s.reads)

/-- One read of at most `want` bytes. -/
def read (s : ByteSource) (want : Nat) : ReadAnswer × ByteSource :=
  if s.interrupted < s.interruptions s.reads then
    (.interrupted, { s with interrupted := s.interrupted + 1 })
  else
    let next := { s with reads := s.reads + 1, interrupted := 0 }
    if s.pending.isEmpty then
      match s.failure with
      | none => (.bytes [], next)
      | some reason => (.failed reason, next)
    else
      (.bytes (s.pending.take (s.allowance want)),
        { next with pending := s.pending.drop (s.allowance want) })

/-- An interruption uses nothing up but one of the interruptions to come. -/
theorem eq_of_read_interrupted {s next : ByteSource} {want : Nat}
    (h : s.read want = (.interrupted, next)) :
    s.interrupted < s.interruptions s.reads ∧
      next = { s with interrupted := s.interrupted + 1 } := by
  unfold read at h
  split at h
  · rename_i hLess
    exact ⟨hLess, by simpa [eq_comm] using h⟩
  · dsimp only at h
    split at h
    · split at h <;> simp at h
    · simp at h

/-- A read fails only after the last byte. -/
theorem eq_of_read_failed {s next : ByteSource} {want : Nat} {reason : String}
    (h : s.read want = (.failed reason, next)) :
    s.pending = [] ∧ s.failure = some reason ∧ next.pending = [] ∧ next.failure = s.failure := by
  unfold read at h
  split at h
  · simp at h
  · dsimp only at h
    split at h
    · rename_i hEmpty
      have hNil := List.isEmpty_iff.1 hEmpty
      split at h
      · simp at h
      · rename_i hFailure
        simp only [Prod.mk.injEq, ReadAnswer.failed.injEq] at h
        obtain ⟨rfl, rfl⟩ := h
        exact ⟨hNil, hFailure, hNil, rfl⟩
    · simp at h

/-- A read that gets through takes its bytes from the front. -/
theorem eq_of_read_bytes {s next : ByteSource} {want : Nat} {bs : List UInt8}
    (h : s.read want = (.bytes bs, next)) :
    bs = s.pending.take (s.allowance want) ∧ next.pending = s.pending.drop (s.allowance want) ∧
      next.failure = s.failure ∧ (s.pending = [] → s.failure = none) := by
  unfold read at h
  split at h
  · simp at h
  · dsimp only at h
    split at h
    · rename_i hEmpty
      have hNil := List.isEmpty_iff.1 hEmpty
      split at h
      · rename_i hFailure
        simp only [Prod.mk.injEq, ReadAnswer.bytes.injEq] at h
        obtain ⟨rfl, rfl⟩ := h
        simp [hNil, hFailure]
      · simp at h
    · rename_i hSome
      simp only [Prod.mk.injEq, ReadAnswer.bytes.injEq] at h
      obtain ⟨rfl, rfl⟩ := h
      refine ⟨rfl, rfl, rfl, fun hNil => ?_⟩
      simp [hNil] at hSome

/-- Read until `want` bytes have come in. An interrupted read is tried again. -/
def readExact (s : ByteSource) (want : Nat) : Except Shortfall (List UInt8) × ByteSource :=
  if want = 0 then (.ok [], s)
  else
    match _h : s.read want with
    | (.interrupted, next) => readExact next want
    | (.failed reason, next) => (.error (.failed reason), next)
    | (.bytes [], next) => (.error .ended, next)
    | (.bytes (b :: bs), next) =>
      match readExact next (want - (bs.length + 1)) with
      | (.ok more, last) => (.ok (b :: bs ++ more), last)
      | (.error shortfall, last) => (.error shortfall, last)
termination_by (want, s.interruptions s.reads - s.interrupted)
decreasing_by
  · apply Prod.Lex.right
    obtain ⟨hLess, rfl⟩ := eq_of_read_interrupted _h
    simp only
    omega
  · apply Prod.Lex.left
    omega

theorem allowance_pos (s : ByteSource) {want : Nat} (h : 0 < want) : 0 < s.allowance want := by
  unfold allowance
  split <;> omega

theorem allowance_le (s : ByteSource) (want : Nat) : s.allowance want ≤ want := by
  unfold allowance
  split <;> omega

/-- Taking what one read allows, and then what is still wanted, takes all that is wanted. -/
theorem rest_of_read {s next : ByteSource} {want : Nat} {bs : List UInt8}
    (hTake : bs = s.pending.take (s.allowance want))
    (hDrop : next.pending = s.pending.drop (s.allowance want)) :
    (want - bs.length ≤ next.pending.length ↔ want ≤ s.pending.length) ∧
      bs ++ next.pending.take (want - bs.length) = s.pending.take want ∧
      next.pending.drop (want - bs.length) = s.pending.drop want := by
  have hLe := s.allowance_le want
  subst hTake
  rw [hDrop]
  by_cases hLong : s.allowance want ≤ s.pending.length
  · have hLength : (s.pending.take (s.allowance want)).length = s.allowance want := by
      simp [hLong]
    rw [hLength, ← List.take_add, List.drop_drop, Nat.add_sub_cancel' hLe]
    exact ⟨by simp only [List.length_drop]; omega, rfl, rfl⟩
  · have hAll : s.pending.take (s.allowance want) = s.pending :=
      List.take_of_length_le (by omega)
    have hNone : s.pending.drop (s.allowance want) = [] := List.drop_of_length_le (by omega)
    rw [hAll, hNone, List.take_of_length_le (by omega : s.pending.length ≤ want),
      List.drop_of_length_le (by omega : s.pending.length ≤ want)]
    refine ⟨?_, by simp, by simp⟩
    simp only [List.length_nil]
    omega

/-- What an exact read answers and leaves is settled by the bytes of the source and by how it ends.
Limits and interruptions do not matter. -/
theorem readExact_eq (s : ByteSource) (want : Nat) :
    (s.readExact want).1 =
        (if want ≤ s.pending.length then .ok (s.pending.take want) else .error s.shortfall) ∧
      (s.readExact want).2.pending = s.pending.drop want ∧
      (s.readExact want).2.failure = s.failure := by
  fun_induction readExact s want with
  | case1 s => simp
  | case2 s want hWant next hRead ih =>
      obtain ⟨-, rfl⟩ := eq_of_read_interrupted hRead
      exact ih
  | case3 s want hWant reason next hRead =>
      obtain ⟨hPending, hFailure, hNext, hSame⟩ := eq_of_read_failed hRead
      simp [hPending, hFailure, hNext, hSame, shortfall, hWant]
  | case4 s want hWant next hRead =>
      obtain ⟨hTake, hDrop, hSame, hFailure⟩ := eq_of_read_bytes hRead
      have hPos := s.allowance_pos (Nat.pos_of_ne_zero hWant)
      have hNil : s.pending = [] := by
        rcases List.take_eq_nil_iff.1 hTake.symm with h | h
        · omega
        · exact h
      simp [hNil, hFailure hNil, hDrop, hSame, shortfall, hWant]
  | case5 s want hWant next b bs hRead more last hMore ih =>
      obtain ⟨hTake, hDrop, hSame, -⟩ := eq_of_read_bytes hRead
      obtain ⟨hIff, hAppend, hRest⟩ := rest_of_read hTake hDrop
      obtain ⟨hAnswer, hPending, hFailure⟩ := ih
      rw [hMore] at hAnswer hPending hFailure
      simp only [List.length_cons] at hIff hAppend hRest
      refine ⟨?_, hPending.trans hRest, hFailure.trans hSame⟩
      simp only [hIff] at hAnswer
      split at hAnswer
      · rename_i hEnough
        rw [Except.ok.injEq] at hAnswer
        rw [if_pos hEnough, hAnswer, hAppend]
      · cases hAnswer
  | case6 s want hWant next b bs hRead shortfall last hMore ih =>
      obtain ⟨hTake, hDrop, hSame, -⟩ := eq_of_read_bytes hRead
      obtain ⟨hIff, -, hRest⟩ := rest_of_read hTake hDrop
      obtain ⟨hAnswer, hPending, hFailure⟩ := ih
      rw [hMore] at hAnswer hPending hFailure
      simp only [List.length_cons] at hIff hRest
      refine ⟨?_, hPending.trans hRest, hFailure.trans hSame⟩
      simp only [hIff] at hAnswer
      split at hAnswer
      · cases hAnswer
      · rename_i hShort
        rw [Except.error.injEq] at hAnswer
        rw [if_neg hShort, hAnswer]
        simp [ByteSource.shortfall, hSame]

/-- Reading never adds bytes. -/
theorem length_readExact_le (s : ByteSource) (want : Nat) :
    (s.readExact want).2.pending.length ≤ s.pending.length := by
  rw [(s.readExact_eq want).2.1, List.length_drop]
  omega

/-- Reading at least one byte with success leaves fewer. -/
theorem length_readExact_lt {s next : ByteSource} {want : Nat} {bs : List UInt8}
    (hWant : 0 < want) (h : s.readExact want = (.ok bs, next)) :
    next.pending.length < s.pending.length := by
  obtain ⟨hAnswer, hRest, -⟩ := s.readExact_eq want
  rw [h] at hAnswer hRest
  split at hAnswer
  · rename_i hEnough
    rw [hRest, List.length_drop]
    omega
  · cases hAnswer

/-- Read everything that is left. The second part tells whether the source ended without failing. -/
def drain (s : ByteSource) : List UInt8 × Bool :=
  (s.pending, s.failure.isNone)

end ByteSource

end ConsoleHost
