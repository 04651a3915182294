import ConsoleHost.Request
import ConsoleHost.Text.Units

/-!
Validation of connect messages. Strings are cut at their terminator before their length is measured,
and of several faults the first in the order size, process, thread, application name, title,
directory is reported.
-/

namespace ConsoleHost

/-- A connect message that has been checked. -/
structure ConnectInfo where
  pid : UInt32
  tid : UInt32
  consoleApp : Bool
  windowVisible : Bool
  group : UInt32
  appName : String
  title : String
  directory : String
  startupFlags : UInt32
  showWindow : UInt16
  bufferSize : Size
  windowSize : Size
  deriving DecidableEq

namespace ConnectInfo

/-- The size of the connect structure on the wire. -/
def messageSize : UInt32 := 1760

/-- Limits of the strings, in UTF-16 units. -/
def appNameLimit : Nat := 128
def titleLimit : Nat := 261
def directoryLimit : Nat := 261

/-- The part of a string before its terminator, if it is within the limit. -/
def bounded (field value : String) (limit : Nat) : Except Refusal String :=
  let clipped := Text.clipAtNul value
  let length := Text.units16 clipped
  if length ≤ limit then .ok clipped else .error (.oversized field length limit)

/-- A 64-bit identifier that has to fit into 32 bits. -/
def narrow (reason : String) (value : UInt64) : Except Refusal UInt32 :=
  if value.toNat < UInt32.size then .ok value.toUInt32 else .error (.invalidRequest reason)

def ofMessage (d : Descriptor) (m : ConnectMessage) : Except Refusal ConnectInfo :=
  if d.inputSize ≠ messageSize then
    .error (.oversized "connect message" d.inputSize.toNat messageSize.toNat)
  else do
    let pid ← narrow "process id out of range" d.process
    let tid ← narrow "thread id out of range" d.object
    let appName ← bounded "application name" m.appName appNameLimit
    let title ← bounded "title" m.title titleLimit
    let directory ← bounded "current directory" m.directory directoryLimit
    return {
      pid, tid, appName, title, directory
      consoleApp := m.consoleApp
      windowVisible := m.windowVisible
      group := m.group
      startupFlags := m.startupFlags
      showWindow := m.showWindow
      bufferSize := m.bufferSize
      windowSize := m.windowSize }

/-- Show-window values that hide or minimize: hide, show minimized, minimize, show minimized without
activation, force minimize. -/
def hidingValues : List UInt16 := [0, 2, 6, 7, 11]

/-- The client asked to start hidden or minimized. The show-window value counts only under its
startup flag. -/
def requestsHiddenWindow (info : ConnectInfo) : Bool :=
  info.startupFlags &&& 1 != 0 && hidingValues.contains info.showWindow

end ConnectInfo

end ConsoleHost
