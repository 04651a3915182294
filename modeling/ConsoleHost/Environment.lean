import ConsoleHost.Call
import ConsoleHost.Session

/-!
The collaborators of a server, as they behave while one request is served. Every field is free: a run of
a server gives an environment to each of its steps, and a statement about all runs is one about all
behaviours.
-/

namespace ConsoleHost

structure Environment where
  system : System
  /-- Find the registered handoff handler. -/
  activate : Clsid → Except String Unit
  /-- The handler takes a session over, or refuses it. -/
  takeOver : Handoff.Offer → Except String Unit
  /-- Start the relay of host signals. -/
  startRelay : Except String Unit
  /-- Process control, by the number of control calls made for the request before. -/
  control : Nat → ControlRequest → Except ServiceError Unit
  /-- The accessibility layer, if there is one. -/
  accessibility : Option (ApplicationEvent → UInt32 → Except ServiceError Unit)
  createWindow : String → Size → Except ServiceError Unit
  /-- Release what a departing process owned. -/
  depart : Session → UInt32 → Except Refusal Session.Departure × Session
  /-- The API layer. Without a reply it completes the request later. -/
  answer : Session → Message → Option Reply × Session

def succeeds {ε : Type} : Except ε Unit → Bool
  | .ok () => true
  | .error _ => false

namespace Environment

/-- Process-control calls in order, the first of them after `before` others. Failures are noted and
change nothing. -/
def controlCalls (env : Environment) (before : Nat) (requests : List ControlRequest) : List Call :=
  requests.mapIdx fun i request => .control request (succeeds (env.control (before + i) request))

/-- Tell the accessibility layer, if there is one. A failure is noted and changes nothing. -/
def accessibilityCalls (env : Environment) (event : ApplicationEvent) (pid : UInt32) : List Call :=
  match env.accessibility with
  | none => []
  | some notify => [.accessibility event pid (succeeds (notify event pid))]

end Environment

end ConsoleHost
