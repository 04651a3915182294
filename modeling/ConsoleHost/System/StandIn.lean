import ConsoleHost.System

/-!
A stand-in for the operating system on hosts without a console driver. Events are plain numbers counted
from one. There is no terminal to hand a session to, so the session counts as not interactive, and no
process handle can be made for another process to wait on.
-/

namespace ConsoleHost

structure StandIn where
  events : Nat
  deriving DecidableEq

namespace StandIn

def fresh : StandIn := ⟨0⟩

def event (created : Nat) : RawHandle := ⟨UInt64.ofNat (created + 1)⟩

def createEvent (s : StandIn) : RawHandle × StandIn := (event s.events, ⟨s.events + 1⟩)

/-- Nothing is ever written to the pipes of the stand-in. -/
def pipe : ByteSource := .ofBytes []

/-- The far end of a pipe: some handle of the system's own, and not the null one. -/
def pipeEnd : RawHandle := ⟨0xFFFFFFFF⟩

def system (s : StandIn) : System where
  interactive := false
  issue k := event (s.events + k)
  createEvent := .ok ()
  createPipe := .ok pipe
  duplicateProcess := .error (.unsupported "process handle duplication")

end StandIn

end ConsoleHost
