import ConsoleHost.Control
import ConsoleHost.LittleEndian
import ConsoleHost.Signal.ByteSource

/-!
Host signals. After a handoff the new host asks for process-control calls through a pipe, one packet
for each: a code, the length of the body with this field counted in, and the body. A body may be longer
than its code needs, up to a limit. `encode` writes a packet and `readOne` takes one from a source.
-/

namespace ConsoleHost.Signal

def notifyAppCode : UInt8 := 1
def setForegroundCode : UInt8 := 5
def endTaskCode : UInt8 := 7

/-- The shortest body of a code, with the four bytes of its length counted in. -/
def minSize? (code : UInt8) : Option Nat :=
  if code = notifyAppCode then some 8
  else if code = setForegroundCode then some 9
  else if code = endTaskCode then some 16
  else none

def maxSize : Nat := 64

/-- Why a stream of signals broke off. -/
inductive Fault where
  | read (reason : String)
  | unknownCode (code : UInt8)
  | badSize (code : UInt8) (size : UInt32)
  deriving DecidableEq

def Fault.message : Fault → String
  | read reason => "Failed to read signal: " ++ reason
  | unknownCode code => "Unknown signal code " ++ toString code.toNat
  | badSize code size =>
    "Signal " ++ toString code.toNat ++ " has bad size " ++ toString size.toNat

/-- The fault of a source that stops inside a packet. -/
def Fault.ofShortfall : Shortfall → Fault
  | .ended => read "failed to fill whole buffer"
  | .failed reason => read reason

def code : ControlRequest → UInt8
  | .notifyApp _ => notifyAppCode
  | .setForeground .. => setForegroundCode
  | .endTask .. => endTaskCode

/-- The fields of a packet. The foreground flag is filled up to a whole word. -/
def fields : ControlRequest → List UInt8
  | .notifyApp pid => LittleEndian.bytes32 pid
  | .setForeground pid on => LittleEndian.bytes32 pid ++ [if on then 1 else 0, 0, 0, 0]
  | .endTask pid eventType flags =>
    LittleEndian.bytes32 pid ++ LittleEndian.bytes32 eventType ++ LittleEndian.bytes32 flags

/-- The packet that asks for a call. -/
def encode (r : ControlRequest) : List UInt8 :=
  code r :: LittleEndian.bytes 4 ((fields r).length + 4) ++ fields r

/-- The call that the fields of a packet ask for. Fields beyond those of the code are passed over. -/
def decode (code : UInt8) (fields : List UInt8) : ControlRequest :=
  let pid := LittleEndian.word32At 0 fields
  if code = notifyAppCode then .notifyApp pid
  else if code = setForegroundCode then .setForeground pid (fields.getD 4 0 != 0)
  else .endTask pid (LittleEndian.word32At 4 fields) (LittleEndian.word32At 8 fields)

/-- The rest of a packet whose code has been read and needs at least `least` bytes. -/
def readBody (code : UInt8) (least : Nat) (s : ByteSource) :
    Except Fault ControlRequest × ByteSource :=
  match s.readExact 4 with
  | (.error shortfall, s) => (.error (.ofShortfall shortfall), s)
  | (.ok sizeField, s) =>
    let size := LittleEndian.word32At 0 sizeField
    if size.toNat < least ∨ maxSize < size.toNat then (.error (.badSize code size), s)
    else
      match s.readExact (size.toNat - 4) with
      | (.error shortfall, s) => (.error (.ofShortfall shortfall), s)
      | (.ok body, s) => (.ok (decode code body), s)

/-- Read one signal. There is none when the source ends between packets. -/
def readOne (s : ByteSource) : Except Fault (Option ControlRequest) × ByteSource :=
  match s.readExact 1 with
  | (.error .ended, s) => (.ok none, s)
  | (.error (.failed reason), s) => (.error (.read reason), s)
  | (.ok head, s) =>
    let code := head.headD 0
    match minSize? code with
    | none => (.error (.unknownCode code), s)
    | some least =>
      match readBody code least s with
      | (.error fault, s) => (.error fault, s)
      | (.ok request, s) => (.ok (some request), s)

theorem length_readBody_le (code : UInt8) (least : Nat) (s : ByteSource) :
    (readBody code least s).2.pending.length ≤ s.pending.length := by
  unfold readBody
  have hSize := s.length_readExact_le 4
  split
  · rename_i hRead
    simpa [hRead] using hSize
  · rename_i sizeField afterSize hRead
    rw [hRead] at hSize
    dsimp only
    split
    · exact hSize
    · have hBody := afterSize.length_readExact_le ((LittleEndian.word32At 0 sizeField).toNat - 4)
      split <;> rename_i hLast <;> rw [hLast] at hBody <;> exact Nat.le_trans hBody hSize

/-- A signal takes at least one byte away from its source. -/
theorem length_lt_of_readOne {s next : ByteSource} {request : ControlRequest}
    (h : readOne s = (.ok (some request), next)) : next.pending.length < s.pending.length := by
  unfold readOne at h
  split at h
  · simp at h
  · simp at h
  · rename_i head afterCode hRead
    have hShorter := ByteSource.length_readExact_lt Nat.one_pos hRead
    dsimp only at h
    split at h
    · simp at h
    · rename_i least _
      have hBody := length_readBody_le (head.headD 0) least afterCode
      split at h
      · simp at h
      · rename_i hLast
        rw [hLast] at hBody
        simp only [Prod.mk.injEq] at h
        obtain ⟨-, rfl⟩ := h
        exact Nat.lt_of_le_of_lt hBody hShorter

/-- Read signals until there are no more, or until one is broken. -/
def readAll (s : ByteSource) : List ControlRequest × Option Fault :=
  match _h : readOne s with
  | (.error fault, _) => ([], some fault)
  | (.ok none, _) => ([], none)
  | (.ok (some request), next) =>
    let (later, fault) := readAll next
    (request :: later, fault)
termination_by s.pending.length
decreasing_by exact length_lt_of_readOne _h

/-- The calls that a relay makes for a source: one for each signal up to the first that is broken. -/
def relayed (s : ByteSource) : List ControlRequest := (readAll s).1

end ConsoleHost.Signal
