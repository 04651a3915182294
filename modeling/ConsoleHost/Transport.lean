import ConsoleHost.Reply

/-!
The driver connection as an in-memory transport: it makes handles and processes addressable by tokens,
takes replies, and may fail to deliver some of them.
-/

namespace ConsoleHost

inductive TransportError where
  /-- The reply to this request could not be delivered. -/
  | completion (identifier : Nat)
  | noServerHandle
  deriving DecidableEq

def TransportError.message : TransportError → String
  | completion identifier => "completing request " ++ Hex.lower identifier ++ " failed"
  | noServerHandle => "server handle is not available"

/-- Something that a later request can address by its token. -/
inductive Published where
  | handle (id : HandleId)
  | process (pid : UInt32)
  deriving DecidableEq

structure Loopback where
  /-- Delivered replies that have not been taken out yet, oldest first. -/
  completed : List Reply
  /-- Everything made addressable, oldest first. -/
  published : List Published
  /-- How many process tokens have been given out. -/
  processTokens : Nat
  /-- How many of the next deliveries fail. -/
  failing : Nat
  /-- The server end of the connection. -/
  serverHandle : Option RawHandle
  deriving DecidableEq

namespace Loopback

def withServerHandle (serverHandle : Option RawHandle) : Loopback := ⟨[], [], 0, 0, serverHandle⟩

/-- Process tokens lie above every 32-bit process identifier. -/
def processTokenBase : Nat := 0x100000000

/-- The token that a publication gets: a handle is addressed by its own number, a process by the next
process token. -/
def tokenFor (t : Loopback) : Published → Nat
  | .handle id => id.number
  | .process _ => processTokenBase + t.processTokens + 1

/-- Make something addressable, under `tokenFor`. -/
def publish (t : Loopback) (what : Published) : Loopback :=
  { t with
    published := t.published ++ [what]
    processTokens :=
      match what with
      | .handle _ => t.processTokens
      | .process _ => t.processTokens + 1 }

/-- The next delivery goes through. -/
def delivers (t : Loopback) : Bool := t.failing == 0

/-- Take a reply. It is kept if it is delivered; a failure uses up one of the failures to come. -/
def complete (t : Loopback) (reply : Reply) : Loopback :=
  if t.delivers then { t with completed := t.completed ++ [reply] }
  else { t with failing := t.failing - 1 }

/-- Let the next deliveries fail, this many of them. -/
def failNext (t : Loopback) (count : Nat) : Loopback := { t with failing := count }

/-- Take the delivered replies out. -/
def takeCompleted (t : Loopback) : List Reply × Loopback :=
  (t.completed, { t with completed := [] })

def requireServerHandle (t : Loopback) : Except TransportError RawHandle :=
  match t.serverHandle with
  | some handle => .ok handle
  | none => .error .noServerHandle

end Loopback

end ConsoleHost
