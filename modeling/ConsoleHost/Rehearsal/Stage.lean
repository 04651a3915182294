import ConsoleHost.Rehearsal

/-!
A server among scripted collaborators, step by step. Each step shows what the collaborators recorded
during it, and which replies came through.
-/

namespace ConsoleHost

structure Stage where
  server : Server
  rehearsal : Rehearsal
  /-- All calls so far, recorded or not. -/
  calls : List Call

structure Scene where
  /-- The calls that a collaborator recorded. -/
  recorded : List Call
  reports : List HandoffReport
  /-- The replies that came through. -/
  delivered : List Reply

namespace Stage

/-- The stage after a step that left this server and made these calls. -/
def advance (stage : Stage) (server : Server) (calls : List Call) : Scene × Stage :=
  let (delivered, transport) := server.transport.takeCompleted
  ({ recorded := calls.filter stage.rehearsal.records
     reports := server.telemetry.reports.drop stage.server.telemetry.reports.length
     delivered := delivered },
   { server := { server with transport := transport }
     rehearsal := stage.rehearsal.after calls
     calls := stage.calls ++ calls })

def raise (rehearsal : Rehearsal) (options : Options) (histories : HistoryPool)
    (serverHandle : Option RawHandle) : Except SystemError (Scene × Stage) :=
  match Server.start rehearsal.environment options histories (.withServerHandle serverHandle) with
  | (.error failure, _) => .error failure
  | (.ok server, calls) => .ok (advance ⟨server, rehearsal, []⟩ server calls)

def dispatch (stage : Stage) (message : Message) : Completion × Scene × Stage :=
  let served := stage.server.dispatch stage.rehearsal.environment message
  (served.completion, stage.advance served.server served.calls)

/-- Serve a request, and shut the server down at once if that handed its session over. -/
def dispatchOnce (stage : Stage) (message : Message) : Completion × Scene × Stage :=
  let served := stage.server.dispatch stage.rehearsal.environment message
  match served.completion with
  | .handedOff =>
    let (server, closing) := served.server.shutdown
    (served.completion, stage.advance server (served.calls ++ closing))
  | _ => (served.completion, stage.advance served.server served.calls)

def shutdown (stage : Stage) : Scene × Stage :=
  let (server, calls) := stage.server.shutdown
  stage.advance server calls

def withSession (stage : Stage) (change : Session → Session) : Scene × Stage :=
  stage.advance { stage.server with session := change stage.server.session } []

def withScript (stage : Stage) (change : Rehearsal → Rehearsal) : Scene × Stage :=
  let (scene, stage) := stage.advance stage.server []
  (scene, { stage with rehearsal := change stage.rehearsal })

def failNext (stage : Stage) (count : Nat) : Scene × Stage :=
  stage.advance { stage.server with transport := stage.server.transport.failNext count } []

end Stage

/-- A script changes only where there is one. -/
def SystemChoice.rescript (choice : SystemChoice) (script : SystemScript) : SystemChoice :=
  match choice with
  | scripted _ => scripted script
  | standIn => standIn

/-- The failing kinds of a control script change only where calls are recorded. -/
def ControlScript.refail (s : ControlScript) (failing : List ControlKind) : ControlScript :=
  match s with
  | silent => silent
  | recording _ => recording failing

def WindowScript.refail (s : WindowScript) (failing : Bool) : WindowScript :=
  match s with
  | suppressed => suppressed
  | recording _ => recording failing

/-- The calls of a negotiation and, if it succeeded, the close of the representative afterwards. -/
def Handoff.Negotiation.callsAndClose (n : Handoff.Negotiation) : List Call :=
  match n.outcome with
  | .error _ => n.calls
  | .ok established => n.calls ++ [.close established.representative]

/-- Bring a session up several times over. Each time shows its result and the calls it made. -/
def BringUp.repeated (defaults : SessionDefaults) (headless : Bool) (info : ConnectInfo) :
    Nat → Rehearsal → Session → List BringUp.Outcome
  | 0, _, _ => []
  | times + 1, rehearsal, session =>
    let up := BringUp.run rehearsal.environment defaults headless 0 session info
    up :: repeated defaults headless info times (rehearsal.after up.calls) up.session

end ConsoleHost
