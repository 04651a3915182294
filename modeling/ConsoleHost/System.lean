import ConsoleHost.Endpoint
import ConsoleHost.Signal.ByteSource

/-!
The operating system as far as the server uses it: events, signal pipes and process handles. The
handles that it issues while one request is served are numbered in the order in which they are issued.
-/

namespace ConsoleHost

inductive SystemError where
  /-- A call failed; `operation` names the step. -/
  | failed (operation reason : String)
  | unsupported (feature : String)
  deriving DecidableEq

def SystemError.message : SystemError → String
  | failed operation reason => "Failed to " ++ operation ++ ": " ++ reason
  | unsupported feature => feature ++ " is not available on this platform"

/-- What the operating system answers while one request is served. Every call but `issue` is made at
most once in that time. -/
structure System where
  /-- The server runs in a visible session of a user. -/
  interactive : Bool
  /-- The handle issued after so many others. Only a call that succeeds is issued one. -/
  issue : Nat → RawHandle
  createEvent : Except SystemError Unit
  /-- A pipe for signals. The answer is the end that this process reads. -/
  createPipe : Except SystemError ByteSource
  /-- A handle to this process that another process can wait on. -/
  duplicateProcess : Except SystemError Unit

end ConsoleHost
