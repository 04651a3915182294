/-!
Numbers as bytes, least significant byte first.
-/

namespace ConsoleHost.LittleEndian

def bytes : Nat → Nat → List UInt8
  | 0, _ => []
  | count + 1, n => UInt8.ofNat n :: bytes count (n / 256)

/-- The number that a list of bytes stands for. -/
def value : List UInt8 → Nat
  | [] => 0
  | b :: rest => b.toNat + 256 * value rest

/-- How many numbers can be told apart by so many bytes. -/
def capacity : Nat → Nat
  | 0 => 1
  | count + 1 => 256 * capacity count

def bytes32 (n : UInt32) : List UInt8 := bytes 4 n.toNat

/-- The 32-bit word at an offset. Bytes that are not there count as zero. -/
def word32At (offset : Nat) (bs : List UInt8) : UInt32 :=
  UInt32.ofNat (value ((bs.drop offset).take 4))

@[simp] theorem length_bytes (count n : Nat) : (bytes count n).length = count := by
  induction count generalizing n with
  | zero => rfl
  | succ count ih => simp [bytes, ih]

/-- Reading back what was written loses only what does not fit. -/
theorem value_bytes (count n : Nat) : value (bytes count n) = n % capacity count := by
  induction count generalizing n with
  | zero => simp [bytes, value, capacity, Nat.mod_one]
  | succ count ih =>
      have hByte : (UInt8.ofNat n).toNat = n % 256 := UInt8.toNat_ofNat'
      rw [bytes, value, hByte, ih, capacity, Nat.mod_mul]

end ConsoleHost.LittleEndian
