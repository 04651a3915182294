import ConsoleHost.Clsid
import ConsoleHost.Control
import ConsoleHost.Handoff.Offer

/-!
Calls of collaborators. A server's calls, in the order in which they are made, are its trace: what the
operating system, the handoff handler, process control, the accessibility layer, the window host, the
transport and the API layer get to see. A call that can fail says whether it succeeded.
-/

namespace ConsoleHost

inductive Call where
  /-- An event was asked for. -/
  | createEvent (issued : Option RawHandle)
  /-- A signal pipe was asked for; its far end was issued. -/
  | createPipe (issued : Option RawHandle)
  /-- A handle to this process was asked for. -/
  | duplicateProcess (issued : Option RawHandle)
  /-- A process was waited for. It has exited when the next call is made. -/
  | waitForExit (process : RawHandle)
  /-- A handle that the server owned was closed. -/
  | close (handle : RawHandle)
  | activate (target : Clsid) (succeeded : Bool)
  | serverHandle (found : Option RawHandle)
  /-- A handoff handler was called. -/
  | offer (offer : Handoff.Offer)
  /-- The handler took the session over and gave a handle to the process that represents it. -/
  | representative (process : RawHandle)
  | startRelay (succeeded : Bool)
  | control (request : ControlRequest) (succeeded : Bool)
  | accessibility (event : ApplicationEvent) (pid : UInt32) (succeeded : Bool)
  | createWindow (title : String) (size : Size) (succeeded : Bool)
  | publish (what : Published) (token : Nat)
  | complete (reply : Reply) (delivered : Bool)
  /-- The API layer was asked to answer a message. -/
  | api (message : Message)
  deriving DecidableEq

namespace Call

/-- The handle that a call brought in. -/
def issued? : Call → Option RawHandle
  | createEvent issued => issued
  | createPipe issued => issued
  | duplicateProcess issued => issued
  | representative process => some process
  | _ => none

/-- The handle that a call closed. -/
def closed? : Call → Option RawHandle
  | close handle => some handle
  | _ => none

def issued (calls : List Call) : List RawHandle := calls.filterMap issued?

def closed (calls : List Call) : List RawHandle := calls.filterMap closed?

end Call

end ConsoleHost
