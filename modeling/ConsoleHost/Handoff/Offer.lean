import ConsoleHost.System
import ConsoleHost.Transport

/-!
What a handoff handler is given, and why a handoff fails.
-/

namespace ConsoleHost.Handoff

/-- As much of a connect request as the handler needs to pick it up again. -/
structure AttachMessage where
  idLow : UInt32
  idHigh : Int32
  process : UInt64
  object : UInt64
  function : UInt32
  inputSize : UInt32
  outputSize : UInt32
  deriving DecidableEq

def AttachMessage.ofDescriptor (d : Descriptor) : AttachMessage :=
  ⟨d.idLow, d.idHigh, d.process, d.object, d.function, d.inputSize, d.outputSize⟩

/-- The identifier that the two halves of an attach message stand for. -/
def AttachMessage.identifier (m : AttachMessage) : Nat :=
  m.idHigh.toUInt32.toNat * UInt32.size + m.idLow.toNat

/-- One call of a handoff handler. -/
structure Offer where
  server : RawHandle
  wakeEvent : RawHandle
  message : AttachMessage
  /-- The end of the signal pipe that the handler writes to. -/
  signalPipe : RawHandle
  /-- This process, for the handler to wait on. -/
  process : RawHandle
  deriving DecidableEq

inductive Error where
  | activation (reason : String)
  | serverHandle (error : TransportError)
  | system (error : SystemError)
  | rejected (reason : String)
  | relay (reason : String)
  deriving DecidableEq

def Error.message : Error → String
  | activation reason => "Failed to activate handoff handler: " ++ reason
  | serverHandle error => "Failed to get server handle: " ++ error.message
  | system error => error.message
  | rejected reason => "Handoff handler refused the session: " ++ reason
  | relay reason => "Failed to start signal relay: " ++ reason

end ConsoleHost.Handoff
