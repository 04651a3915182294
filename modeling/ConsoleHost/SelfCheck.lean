import ConsoleHost.Environment.Bare
import ConsoleHost.Server
import ConsoleHost.System.StandIn
import ConsoleHost.Text.Column

/-!
The self-check: one client connects to a server, opens and closes some objects, makes two requests that
have to fail, and leaves. Its report has a line for each of these requests.
-/

namespace ConsoleHost

/-- A self-check under way. -/
structure SelfCheck where
  server : Server
  /-- How many requests have been made. -/
  requests : Nat
  /-- The lines of the report so far. -/
  report : List String
  /-- All calls of collaborators so far. -/
  calls : List Call

namespace SelfCheck

/-- One request of the client, without its number. -/
structure Probe where
  name : String
  process : Nat
  object : Nat
  function : UInt32
  inputSize : UInt32
  request : Request
  deriving DecidableEq

namespace Probe

def connect (pid : UInt32) : Probe where
  name := "connect"
  process := pid.toNat
  object := 1
  function := 1
  inputSize := ConnectInfo.messageSize
  request := .connect
    { consoleApp := true
      windowVisible := true
      group := pid
      appName := "consrv.exe"
      title := ""
      directory := ""
      startupFlags := 0
      showWindow := 0
      bufferSize := .zero
      windowSize := .zero }

def create (process : Nat) (name : String) (type : ObjectType) (access : AccessMask) : Probe where
  name := name
  process := process
  object := 0
  function := 3
  inputSize := 0
  request := .create ⟨type, access, .all, CreateRequest.textMode⟩

def creations (process : Nat) : List Probe :=
  [create process "create input" .generic .genericRead,
   create process "create output" .generic .genericWrite,
   create process "create new output" .newOutput .readWrite]

def refusals (process : Nat) : List Probe :=
  [create process "create read/write generic (expected to fail)" .generic .readWrite,
   { name := "api call (expected to be unsupported)"
     process := process
     object := 0
     function := 7
     inputSize := 0
     request := .api ⟨0x01000001, []⟩ }]

def close (process token : Nat) : Probe := ⟨"close", process, token, 4, 0, .close⟩

def disconnect (process : Nat) : Probe := ⟨"disconnect", process, 0, 2, 0, .disconnect⟩

/-- The message of a request that is the first, the second and so on. -/
def message (p : Probe) (number : Nat) : Message where
  descriptor :=
    { identifier := UInt64.ofNat number
      process := UInt64.ofNat p.process
      object := UInt64.ofNat p.object
      function := p.function
      inputSize := p.inputSize
      outputSize := 0 }
  request := p.request

end Probe

/-- The host while requests are served: the wake event of the server is all that was made of it. -/
def environment : Environment := .bare StandIn.fresh.createEvent.2.system

/-- A server for the check. Sessions stay here whatever the options say: the transport of the check
cannot be handed to anyone. -/
def start (options : Options) (historyBuffers : Nat) : Except SystemError SelfCheck :=
  let options := { options with launch := { options.launch with disabled := true } }
  let (server, calls) := Server.start (.bare StandIn.fresh.system) options
    (.ofCapacity historyBuffers) (.withServerHandle none)
  server.map fun server => ⟨server, 0, [], calls⟩

/-- The line of a report for a request that was answered. -/
def answered (name : String) (reply : Reply) : String :=
  Text.padded 48 name ++ " " ++ Text.padded 6 (if reply.status.isSuccess then "ok" else "failed") ++
    " " ++ reply.status.text ++ " info=" ++ toString reply.information

/-- The line of a report for a request that nobody has answered, if there is a word for it. -/
def unanswered? (name : String) : Completion → Option String
  | .pending => some (Text.padded 48 name ++ " Pending")
  | .handedOff => some (Text.padded 48 name ++ " HandedOff")
  | .reply _ | .completed => none

/-- Make a request and report on it. The reply counts only if it came through the transport. -/
def ask (check : SelfCheck) (probe : Probe) : Option Reply × SelfCheck :=
  let number := check.requests + 1
  let served := check.server.dispatch environment (probe.message number)
  let (delivered, transport) := served.server.transport.takeCompleted
  let next (line : Option String) : SelfCheck :=
    { server := { served.server with transport := transport }
      requests := number
      report := check.report ++ line.toList
      calls := check.calls ++ served.calls }
  match served.completion with
  | .completed =>
    let last := delivered.getLast?
    (last, next (last.map (answered probe.name)))
  | .reply reply => (none, next (some (answered probe.name reply)))
  | other => (none, next (unanswered? probe.name other))

def askAll : SelfCheck → List Probe → List Reply × SelfCheck
  | check, [] => ([], check)
  | check, probe :: probes =>
    let (reply, check) := check.ask probe
    let (replies, check) := check.askAll probes
    (reply.toList ++ replies, check)

def visit (check : SelfCheck) (process : Nat) : SelfCheck :=
  let (opened, check) := check.askAll (Probe.creations process)
  let (_, check) := check.askAll (Probe.refusals process)
  let (_, check) := check.askAll (opened.map fun reply => Probe.close process reply.information)
  (check.ask (Probe.disconnect process)).2

/-- The end of a report: what became of the server. -/
def summary (server : Server) : List String :=
  ["",
   "Lifecycle: " ++ (if server.shuttingDown then "ShuttingDown" else "Running"),
   "Telemetry: attach=" ++ toString server.telemetry.attachConsole.toNat ++ " free=" ++
     toString server.telemetry.freeConsole.toNat]

/-- The process token in the answer to a connect request: its first eight bytes. -/
def processToken? (reply : Reply) : Option Nat :=
  let bytes := reply.payload.take 8
  if bytes.length = 8 then some (LittleEndian.value bytes) else none

/-- The lines printed by a self-check, the failure that ended it early, if there was one, and all calls of
collaborators. -/
structure Result where
  lines : List String
  failure : Option String
  calls : List Call
  deriving DecidableEq

def title : List String := ["=== consrv self-check ===", ""]

/-- Check a server that is launched with these options, as a process with this identifier. -/
def run (options : Options) (historyBuffers : Nat) (pid : UInt32) : Result :=
  match start options historyBuffers with
  | .error failure => ⟨[], some failure.message, [.createEvent none]⟩
  | .ok check =>
    let (reply, check) := check.ask (Probe.connect pid)
    match reply.bind processToken? with
    | none =>
      ⟨title ++ check.report, some "connect did not return a process token", check.calls⟩
    | some process =>
      let check := check.visit process
      let (_, closing) := check.server.shutdown
      ⟨title ++ check.report ++ summary check.server, none, check.calls ++ closing⟩

end SelfCheck

end ConsoleHost
