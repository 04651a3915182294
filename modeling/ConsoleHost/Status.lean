import ConsoleHost.Text.Hex

/-!
Status codes of replies, and the refusals that a client can observe. A refusal is a cause; its
wording is `Refusal.message` and the status a client sees is `Refusal.status`.
-/

namespace ConsoleHost

/-- A 32-bit reply status. The top bit marks failure. -/
structure Status where
  code : UInt32
  deriving DecidableEq

namespace Status

def success : Status := ⟨0⟩
def unsuccessful : Status := ⟨0xC0000001⟩
def notImplemented : Status := ⟨0xC0000002⟩
def invalidHandle : Status := ⟨0xC0000008⟩
def invalidParameter : Status := ⟨0xC000000D⟩
def noMemory : Status := ⟨0xC0000017⟩
def objectNameCollision : Status := ⟨0xC0000035⟩
def sharingViolation : Status := ⟨0xC0000043⟩
def invalidBufferSize : Status := ⟨0xC0000206⟩

instance : Inhabited Status := ⟨success⟩

/-- Success and informational codes have a clear top bit. -/
def isSuccess (s : Status) : Bool :=
  s.code < 0x80000000

/-- A status is written as `0x` and eight upper-case digits. -/
def text (s : Status) : String :=
  String.ofList ('0' :: 'x' :: Hex.upperPadded 8 s.code.toNat)

end Status

inductive Refusal where
  /-- The request makes no sense in the present session; nothing was touched. -/
  | invalidRequest (reason : String)
  /-- A field of fixed capacity was exceeded. -/
  | oversized (field : String) (length limit : Nat)
  /-- The access or the sharing asked for conflicts with handles that are already open. -/
  | sharingViolation (object : Nat)
  /-- Something of fixed number has run out. -/
  | outOf (resource : String)
  | handleNotOpen (handle : Nat)
  | alreadyConnected (process : UInt32)
  | notConnected (process : UInt32)
  /-- A collaborator that bring-up needs refused. -/
  | bringUpFailed (reason : String)
  deriving DecidableEq

namespace Refusal

def message : Refusal → String
  | invalidRequest reason => "invalid request: " ++ reason
  | oversized field length limit =>
    field ++ " is " ++ toString length ++ " units, limit is " ++ toString limit
  | sharingViolation object => "sharing violation on object " ++ toString object
  | outOf resource => "out of " ++ resource
  | handleNotOpen handle => "handle " ++ Hex.lower handle ++ " is not open"
  | alreadyConnected process => "process " ++ toString process.toNat ++ " is already connected"
  | notConnected process => "process " ++ toString process.toNat ++ " is not connected"
  | bringUpFailed reason => "session bring-up failed: " ++ reason

def status : Refusal → Status
  | invalidRequest _ => .invalidParameter
  | oversized .. => .invalidBufferSize
  | sharingViolation _ => .sharingViolation
  | outOf _ => .noMemory
  | handleNotOpen _ => .invalidHandle
  | notConnected _ => .invalidHandle
  | alreadyConnected _ => .objectNameCollision
  | bringUpFailed _ => .unsuccessful

/-- No refusal reads as a success. -/
theorem isSuccess_status (r : Refusal) : r.status.isSuccess = false := by
  cases r <;> rfl

end Refusal

end ConsoleHost
