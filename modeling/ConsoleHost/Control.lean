/-!
Process-control requests: what the console asks of the operating system on behalf of processes it does
not own, and the refusals of the collaborators that serve the console without deciding anything.
-/

namespace ConsoleHost

inductive ControlRequest where
  /-- Register a process as a console application. -/
  | notifyApp (pid : UInt32)
  | setForeground (pid : UInt32) (on : Bool)
  | endTask (pid eventType flags : UInt32)
  deriving DecidableEq

/-- A collaborator cannot serve a call. -/
inductive ServiceError where
  | unavailable (service : String)
  deriving DecidableEq

def ServiceError.message : ServiceError → String
  | unavailable service => service ++ " is unavailable"

/-- What the accessibility layer is told about. -/
inductive ApplicationEvent where
  | started
  | ended
  deriving DecidableEq

end ConsoleHost
