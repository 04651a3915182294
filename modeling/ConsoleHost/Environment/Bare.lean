import ConsoleHost.Environment

/-!
A host that offers a server nothing but its operating system: no handoff handlers, no one who watches,
no window and no API layer. Notifications are taken and forgotten.
-/

namespace ConsoleHost.Environment

/-- Nobody is registered to take a session over. -/
def noHandler (target : Clsid) : Except String Unit :=
  .error ("no activator for " ++ target.text)

/-- Process control without a controller: only ending a task needs one. -/
def uncontrolled (request : ControlRequest) : Except ServiceError Unit :=
  match request with
  | .notifyApp _ | .setForeground .. => .ok ()
  | .endTask .. => .error (.unavailable "process control")

/-- The answer of an API layer that implements nothing. -/
def notImplemented (message : Message) : Reply := message.reply .notImplemented

def bare (system : System) : Environment where
  system := system
  activate := noHandler
  takeOver _ := .error "nobody takes sessions over"
  startRelay := .ok ()
  control _ := uncontrolled
  accessibility := none
  createWindow _ _ := .ok ()
  depart := Session.depart
  answer session message := (some (notImplemented message), session)

end ConsoleHost.Environment
