import ConsoleHost.Text.Hex

/-!
The two kinds of session endpoint, and the sizes and system handles that describe them.
-/

namespace ConsoleHost

/-- The value by which the operating system names a handle. Zero is no handle. -/
structure RawHandle where
  value : UInt64
  deriving DecidableEq

namespace RawHandle

def null : RawHandle := ⟨0⟩

def text (h : RawHandle) : String :=
  Hex.lower h.value.toNat

end RawHandle

/-- Dimensions in character cells. -/
structure Size where
  width : UInt16
  height : UInt16
  deriving DecidableEq

namespace Size

def zero : Size := ⟨0, 0⟩

def isEmpty (s : Size) : Bool :=
  s.width == 0 || s.height == 0

/-- The largest size that fits into both, taken in each dimension alone. -/
def clamp (s bound : Size) : Size :=
  ⟨min s.width bound.width, min s.height bound.height⟩

/-- A size hint that is not empty wins over the fallback. -/
def orElse (hint fallback : Size) : Size :=
  if hint.isEmpty then fallback else hint

end Size

/-- What a session object stands for. -/
inductive Endpoint where
  /-- The input side, with the event that is signalled when input arrives. -/
  | input (wakeEvent : RawHandle)
  /-- An output buffer and the window that shows a part of it. -/
  | output (buffer window : Size)
  deriving DecidableEq

inductive EndpointKind where
  | input
  | output
  deriving DecidableEq

def Endpoint.kind : Endpoint → EndpointKind
  | input _ => .input
  | output .. => .output

end ConsoleHost
