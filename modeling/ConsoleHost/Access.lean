/-!
Desired access and share modes of handles. Both are words whose bits are all kept, known or not; only
the read and the write bit decide anything.
-/

namespace ConsoleHost

/-- The access a handle was opened with. -/
structure AccessMask where
  bits : UInt32
  deriving DecidableEq

namespace AccessMask

def genericRead : AccessMask := ⟨0x80000000⟩
def genericWrite : AccessMask := ⟨0x40000000⟩

/-- Read and write, the access every connecting process gets. -/
def readWrite : AccessMask := ⟨0xC0000000⟩

def reads (a : AccessMask) : Bool :=
  a.bits &&& genericRead.bits != 0

def writes (a : AccessMask) : Bool :=
  a.bits &&& genericWrite.bits != 0

end AccessMask

/-- What an opener lets others do at the same time. -/
structure ShareMode where
  bits : UInt32
  deriving DecidableEq

namespace ShareMode

def all : ShareMode := ⟨3⟩

def sharesRead (s : ShareMode) : Bool :=
  s.bits &&& 1 != 0

def sharesWrite (s : ShareMode) : Bool :=
  s.bits &&& 2 != 0

end ShareMode

end ConsoleHost
