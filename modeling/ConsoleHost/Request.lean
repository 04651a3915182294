import ConsoleHost.Registry

/-!
Requests as the driver connection delivers them: a fixed header and a typed body.
-/

namespace ConsoleHost

structure Descriptor where
  /-- The request identifier that the transport gave out. -/
  identifier : UInt64
  /-- The process identifier while connecting, the process token afterwards. -/
  process : UInt64
  /-- The thread identifier while connecting, the object token afterwards. -/
  object : UInt64
  function : UInt32
  inputSize : UInt32
  outputSize : UInt32
  deriving DecidableEq

namespace Descriptor

def idLow (d : Descriptor) : UInt32 := d.identifier.toUInt32

def idHigh (d : Descriptor) : Int32 := (d.identifier >>> 32).toUInt32.toInt32

def handle (d : Descriptor) : HandleId := ⟨d.object.toNat⟩

/-- The process token that a request carries, in full width. -/
def processToken (d : Descriptor) : Nat := d.process.toNat

end Descriptor

/-- What a client asks to open. -/
inductive ObjectType where
  /-- Input or output, whichever the access asks for. -/
  | generic
  | currentInput
  | currentOutput
  /-- A fresh output buffer. -/
  | newOutput
  deriving DecidableEq

structure CreateRequest where
  type : ObjectType
  access : AccessMask
  share : ShareMode
  /-- The flags of a new output buffer. -/
  bufferFlags : UInt32
  deriving DecidableEq

namespace CreateRequest

/-- The flag word of a text-mode buffer, the only kind there is. -/
def textMode : UInt32 := 1

/-- Settle what a generic request is for. Reading alone means input, writing alone means output. -/
def resolve (r : CreateRequest) : Except Refusal ObjectType :=
  match r.type with
  | .generic =>
    match r.access.reads, r.access.writes with
    | true, false => .ok .currentInput
    | false, true => .ok .currentOutput
    | _, _ => .error (.invalidRequest "generic object needs read-only or write-only access")
  | settled => .ok settled

end CreateRequest

/-- What a client sends when it connects. -/
structure ConnectMessage where
  /-- The client is starting up, as opposed to attaching later. -/
  consoleApp : Bool
  /-- The client was created with a window. -/
  windowVisible : Bool
  group : UInt32
  appName : String
  title : String
  directory : String
  startupFlags : UInt32
  showWindow : UInt16
  bufferSize : Size
  windowSize : Size
  deriving DecidableEq

/-- A request for the API layer, which alone understands it. -/
structure ApiCall where
  number : UInt32
  input : List UInt8
  deriving DecidableEq

inductive Request where
  | create (request : CreateRequest)
  /-- Close the handle that the header names. -/
  | close
  | connect (message : ConnectMessage)
  /-- Disconnect the process whose token the header carries. -/
  | disconnect
  | api (call : ApiCall)
  deriving DecidableEq

structure Message where
  descriptor : Descriptor
  request : Request
  deriving DecidableEq

end ConsoleHost
