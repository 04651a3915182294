import ConsoleHost.Access

/-!
Sharing between the handles on one object. `Compatible` is the rule, stated for two openers;
`SharingCounts` is the bookkeeping that decides it for a newcomer against all handles at once.
-/

namespace ConsoleHost

/-- Two openers of one object can live side by side: what each of them does, the other shares. -/
def Compatible (access : AccessMask) (share : ShareMode) (otherAccess : AccessMask)
    (otherShare : ShareMode) : Prop :=
  (access.reads = true → otherShare.sharesRead = true) ∧
  (access.writes = true → otherShare.sharesWrite = true) ∧
  (otherAccess.reads = true → share.sharesRead = true) ∧
  (otherAccess.writes = true → share.sharesWrite = true)

instance (a : AccessMask) (s : ShareMode) (b : AccessMask) (t : ShareMode) :
    Decidable (Compatible a s b t) := by
  unfold Compatible
  infer_instance

/-- How many handles are open on an object, and how many of them read, write, and let others read
and write. Each count is a 32-bit word. -/
structure SharingCounts where
  opens : UInt32
  readers : UInt32
  writers : UInt32
  readSharers : UInt32
  writeSharers : UInt32
  deriving DecidableEq

namespace SharingCounts

/-- A count with one more, if it applies. A full word starts again from zero. -/
def countUp (n : UInt32) (applies : Bool) : UInt32 :=
  if applies then n + 1 else n

/-- A count with one less, if it applies. No count falls below zero. -/
def countDown (n : UInt32) (applies : Bool) : UInt32 :=
  if applies ∧ n ≠ 0 then n - 1 else n

def zero : SharingCounts := ⟨0, 0, 0, 0, 0⟩

/-- A newcomer may read only where every opener shares reading, may keep reading to itself only where
nobody reads, and the same for writing. -/
def permits (c : SharingCounts) (access : AccessMask) (share : ShareMode) : Bool :=
  !(access.reads && c.readSharers != c.opens) &&
  !(access.writes && c.writeSharers != c.opens) &&
  !(!share.sharesRead && c.readers > 0) &&
  !(!share.sharesWrite && c.writers > 0)

def add (c : SharingCounts) (access : AccessMask) (share : ShareMode) : SharingCounts where
  opens := countUp c.opens true
  readers := countUp c.readers access.reads
  writers := countUp c.writers access.writes
  readSharers := countUp c.readSharers share.sharesRead
  writeSharers := countUp c.writeSharers share.sharesWrite

def remove (c : SharingCounts) (access : AccessMask) (share : ShareMode) : SharingCounts where
  opens := countDown c.opens true
  readers := countDown c.readers access.reads
  writers := countDown c.writers access.writes
  readSharers := countDown c.readSharers share.sharesRead
  writeSharers := countDown c.writeSharers share.sharesWrite

/-- Counting up is adding one below the end of the word. -/
theorem toNat_countUp {n : UInt32} {applies : Bool} (h : n.toNat + 1 < UInt32.size) :
    (countUp n applies).toNat = n.toNat + applies.toNat := by
  cases applies with
  | false => rfl
  | true =>
      have hOne : (1 : UInt32).toNat = 1 := rfl
      simp only [countUp, ↓reduceIte, UInt32.toNat_add, hOne, Bool.toNat_true]
      exact Nat.mod_eq_of_lt h

theorem toNat_countUp_le (n : UInt32) (applies : Bool) :
    (countUp n applies).toNat ≤ n.toNat + applies.toNat := by
  cases applies with
  | false => exact Nat.le_refl _
  | true =>
      simp only [countUp, ↓reduceIte, UInt32.toNat_add]
      exact Nat.mod_le _ _

/-- Counting down takes one away as long as there is one. -/
theorem toNat_countDown (n : UInt32) (applies : Bool) :
    (countDown n applies).toNat = n.toNat - applies.toNat := by
  cases applies with
  | false => simp [countDown]
  | true =>
      by_cases hZero : n = 0
      · simp [countDown, hZero]
      · have hLe : 1 ≤ n := by
          rw [UInt32.le_iff_toNat_le]
          exact Nat.one_le_iff_ne_zero.2 fun h => hZero (UInt32.toNat_inj.1 h)
        simp [countDown, hZero, UInt32.toNat_sub_of_le _ _ hLe]

/-- An object that nobody has open admits every opener. -/
theorem permits_zero (access : AccessMask) (share : ShareMode) :
    zero.permits access share = true := by
  simp [permits, zero]

end SharingCounts

end ConsoleHost
