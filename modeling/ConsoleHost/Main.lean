import ConsoleHost.CommandLine
import ConsoleHost.Places

/-!
The program: it reads its arguments, its surroundings and its settings file, keeps a log if it can, and
prints what `CommandLine.respond` says.
-/

namespace ConsoleHost

/-- Look for the settings file. One that cannot be read counts as missing. -/
def findSettings (name : String) : IO Settings.Found := do
  try
    let content ← IO.FS.readBinFile name
    return .bytes content.toList
  catch _ => return .nothing

/-- Make the directory of the program and start the log. Without a log the program works as well. -/
def startLog (places : Places) : IO Unit := do
  try
    if let some directory := places.directory then IO.FS.createDirAll directory
  catch _ => pure ()
  try
    let log ← IO.FS.Handle.mk places.log .append
    log.putStrLn (CommandLine.versionLine ++ " starting...")
  catch _ => pure ()

def clientPid : UInt32 := 1

def readClsid : Clsid.Reader :=
  .ofUsualForms fun _ => "expected 32 hexadecimal digits, plain, grouped, braced or as a URN"

/-- The settings in force, with the log started. This happens only for a command line without fault. -/
def prepare : IO Settings := do
  let places := Places.ofUser (← IO.getEnv "USERPROFILE") (← IO.getEnv "HOME")
  let settings ←
    match places.settings with
    | none => pure Settings.standard
    | some name => pure (Settings.ofFound readClsid name (← findSettings name))
  startLog places
  return settings

def runProgram (words : List String) : IO UInt32 := do
  let settings ←
    match Arguments.parse readClsid words with
    | .error _ => pure Settings.standard
    | .ok _ => prepare
  let response := CommandLine.respond readClsid words settings clientPid
  IO.print response.output
  IO.eprint response.errors
  return response.exitCode.toUInt32

end ConsoleHost

def main (words : List String) : IO UInt32 := ConsoleHost.runProgram words
