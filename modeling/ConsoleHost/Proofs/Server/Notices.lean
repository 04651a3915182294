import ConsoleHost.Proofs.Hosting
import ConsoleHost.Proofs.Server.Connect
import ConsoleHost.Proofs.Server.Run

/-! Notices that fail. Process control and the accessibility layer are told what happens and are not asked for
anything, so a server goes the same way whether they take notice or not. To compare two servers that fare
differently, both are compared with the one whose notices all get through. -/

namespace ConsoleHost

open Call

/-- The call as it is if a notice gets through. Other calls are what they are. -/
def Call.noticed : Call → Call
  | control request _ => control request true
  | accessibility event pid _ => accessibility event pid true
  | call => call

/-- The environment if every notice gets through. -/
def Environment.attentive (env : Environment) : Environment :=
  { env with
    control := fun _ _ => .ok ()
    accessibility := env.accessibility.map fun _ _ _ => .ok () }

theorem Call.noticed_of_raises {call : Call} (h : call.raises = true) : call.noticed = call := by
  cases call with
  | control => cases h
  | accessibility => cases h
  | _ => rfl

/-- No handle comes in with a notice. -/
theorem Call.issued_noticed (calls : List Call) : issued (calls.map noticed) = issued calls := by
  rw [issued, issued, List.filterMap_map]
  refine List.filterMap_congr fun call _ => ?_
  cases call <;> rfl

namespace Environment

variable (env : Environment)

/-- With control calls that all succeed, the same ones are made. -/
theorem controlCalls_attentive (before : Nat) (requests : List ControlRequest) :
    env.attentive.controlCalls before requests = (env.controlCalls before requests).map noticed := by
  induction requests generalizing before with
  | nil => rfl
  | cons request rest ih =>
      rw [controlCalls_cons, controlCalls_cons, List.map_cons, ih]
      rfl

theorem accessibilityCalls_attentive (event : ApplicationEvent) (pid : UInt32) :
    env.attentive.accessibilityCalls event pid = (env.accessibilityCalls event pid).map noticed := by
  cases hLayer : env.accessibility with
  | none => simp [accessibilityCalls, attentive, hLayer]
  | some notify => simp [accessibilityCalls, attentive, hLayer, noticed, succeeds]

end Environment

variable {env : Environment}

/-! What a process is told of while it is hosted. -/

namespace BringUp

variable (defaults : SessionDefaults) (headless : Bool) (issued : Nat) (s : Session) (info : ConnectInfo)

/-- Bring-up takes no notice of the control and accessibility answers. -/
theorem run_attentive :
    run env.attentive defaults headless issued s info = run env defaults headless issued s info := rfl

/-- Bring-up makes no call that is a mere notice. -/
theorem noticed_run :
    (run env defaults headless issued s info).calls.map noticed =
      (run env defaults headless issued s info).calls := by
  have hSame : ∀ call ∈ (run env defaults headless issued s info).calls, call.noticed = call :=
    fun _ hMem => noticed_of_raises (raises_of_mem_run hMem).2
  exact (List.map_congr_left hSame).trans (List.map_id _)

end BringUp

namespace Attach

variable (defaults : SessionDefaults) (headless : Bool) (issued : Nat) (s : Session) (t : Loopback)
  (info : ConnectInfo)

/-- The outcome if every notice gets through. -/
def Outcome.noticed (o : Outcome) : Outcome := { o with calls := o.calls.map Call.noticed }

/-- Settling a process goes the same way, whether notices are heeded or not. -/
theorem settle_attentive (told : Nat) :
    settle env.attentive told s t info = (settle env told s t info).noticed := by
  simp only [settle, env.controlCalls_attentive]
  split
  · rfl
  · simp only [Outcome.noticed, List.map_append]
    rfl

theorem complete_attentive :
    complete env.attentive defaults headless issued s t info =
      (complete env defaults headless issued s t info).noticed := by
  simp only [complete, env.controlCalls_attentive, env.accessibilityCalls_attentive,
    BringUp.run_attentive, settle_attentive]
  split
  · simp only [Outcome.noticed, List.map_append, BringUp.noticed_run]
  · simp only [Outcome.noticed, List.map_append, BringUp.noticed_run]

/-- So does a whole attach. -/
theorem run_attentive :
    run env.attentive defaults headless issued s t info =
      (run env defaults headless issued s t info).noticed := by
  simp only [run, complete_attentive]
  split
  · rfl
  · next processes _ =>
      generalize complete env defaults headless issued { s with processes := processes } t info = o
      obtain ⟨refusal | tokens, session, transport, calls⟩ := o
      · rfl
      · rfl

end Attach

/-! What the relay of a handoff passes on. -/

namespace Handoff

variable (serverHandle : Option RawHandle) (target : Clsid) (descriptor : Descriptor)

/-- The attempt if every notice gets through. -/
def Attempt.noticed (a : Attempt) : Attempt := { a with calls := a.calls.map Call.noticed }

theorem noticed_negotiate (wakeEvent : RawHandle) :
    (negotiate env serverHandle target descriptor wakeEvent).calls.map Call.noticed =
      (negotiate env serverHandle target descriptor wakeEvent).calls := by
  have negotiates := negotiates_negotiate env serverHandle target descriptor wakeEvent
  generalize negotiate env serverHandle target descriptor wakeEvent = exchange at negotiates
  cases negotiates <;> rfl

/-- So does a handoff attempt. -/
theorem attempt_attentive (s : Session) :
    attempt env.attentive serverHandle target descriptor s =
      (attempt env serverHandle target descriptor s).noticed := by
  have hSame : negotiate env.attentive serverHandle target descriptor (s.wakeEvent.getD .null) =
    negotiate env serverHandle target descriptor (s.wakeEvent.getD .null) := rfl
  have hRelay : env.attentive.startRelay = env.startRelay := rfl
  have hCalls : (negotiate env serverHandle target descriptor (s.wakeEvent.getD .null)).calls.map Call.noticed =
    _ := noticed_negotiate serverHandle target descriptor (s.wakeEvent.getD .null)
  have hClose : (s.wakeEvent.toList.map Call.close).map Call.noticed = s.wakeEvent.toList.map Call.close :=
    List.map_map
  simp only [attempt, hSame, hRelay, env.controlCalls_attentive]
  split
  · simp only [Attempt.noticed, hCalls]
  · split
    · simp only [Attempt.noticed, List.map_append, hCalls, hClose]
      rfl
    · simp only [Attempt.noticed, List.map_append, hCalls, hClose]
      rfl

end Handoff

/-! What a server does with a request, and with one request after the other. -/

/-- What is served if every notice gets through. -/
def Served.noticed (served : Served) : Served := { served with calls := served.calls.map Call.noticed }

namespace Server

variable (server : Server) (message : Message)

theorem hostLocally_attentive (issued : Nat) (info : ConnectInfo) :
    server.hostLocally env.attentive issued message info =
      (server.hostLocally env issued message info).noticed := by
  simp only [hostLocally, Attach.run_attentive]
  generalize Attach.run env server.options.defaults server.options.launch.headless issued server.session
    server.transport info = o
  obtain ⟨refusal | tokens, session, transport, calls⟩ := o
  · rfl
  · simp only [Attach.Outcome.noticed, Served.noticed, List.map_append]
    rfl

theorem connect_attentive (request : ConnectMessage) :
    server.connect env.attentive message request = (server.connect env message request).noticed := by
  cases hInfo : ConnectInfo.ofMessage message.descriptor request with
  | error refusal =>
      rw [connect_of_invalid hInfo, connect_of_invalid hInfo]
      rfl
  | ok info =>
      cases hTarget : server.handoffTarget? env info with
      | none =>
          have hSame : server.handoffTarget? env.attentive info = none := hTarget
          rw [connect_of_hosted hInfo hTarget, connect_of_hosted hInfo hSame, hostLocally_attentive]
      | some target =>
          have hSame : server.handoffTarget? env.attentive info = some target := hTarget
          have hAttentive : Handoff.attempt env.attentive _ _ _ _ = (Handoff.attempt env _ _ _ _).noticed :=
            Handoff.attempt_attentive server.transport.serverHandle target message.descriptor server.session
          rcases hAttempt : Handoff.attempt env server.transport.serverHandle target message.descriptor
            server.session with ⟨failure | representative, session, calls⟩
          · rw [hAttempt] at hAttentive
            rw [connect_of_fellBack hInfo hTarget hAttempt, connect_of_fellBack hInfo hSame hAttentive]
            simp only [issued_noticed, hostLocally_attentive, Served.noticed, List.map_append]
          · rw [hAttempt] at hAttentive
            rw [connect_of_handedOver hInfo hTarget hAttempt, connect_of_handedOver hInfo hSame hAttentive]
            simp only [Served.noticed, List.map_append]
            rfl

/-- So does every message. -/
theorem dispatch_attentive :
    server.dispatch env.attentive message = (server.dispatch env message).noticed := by
  simp only [dispatch]
  split
  · simp only [create]
    split <;> rfl
  · simp only [close]
    split <;> rfl
  · next request _ => exact server.connect_attentive message request
  · simp only [disconnect]
    split
    · rfl
    · simp only [env.accessibilityCalls_attentive]
      rfl
  · simp only [api]
    split <;> rfl

/-- The step if every notice gets through. -/
def Step.attentive : Step → Step
  | .dispatch env message => .dispatch env.attentive message
  | step => step

/-- The turn if every notice gets through. -/
def Turn.noticed (turn : Turn) : Turn :=
  { turn with step := turn.step.attentive, calls := turn.calls.map Call.noticed }

/-- So does every step. -/
theorem turn_attentive (step : Step) : server.turn step.attentive = (server.turn step).noticed := by
  cases step with
  | dispatch env message =>
      simp only [turn, Step.attentive, dispatch_attentive]
      rfl
  | shutdown =>
      have hClose : (server.session.wakeEvent.toList.map Call.close).map Call.noticed =
        server.session.wakeEvent.toList.map Call.close := List.map_map
      simp only [turn, Step.attentive, Turn.noticed, shutdown, hClose]
  | failNext count => rfl
  | focus on => rfl

end Server

/-- Collaborators behave alike, but for which of the notices they are sent get through. -/
def Environment.Alike (env other : Environment) : Prop := other.attentive = env.attentive

namespace Server

/-- The same happens among collaborators that behave alike. -/
def Step.Alike (step other : Step) : Prop := other.attentive = step.attentive

/-- Two turns after which the server is the same, that finish their request in the same way and that take the same
calls, but for which of the notices among them get through. -/
structure Turn.Alike (turn other : Turn) : Prop where
  server_eq : other.server = turn.server
  completion_eq : other.completion = turn.completion
  noticed_eq : other.calls.map Call.noticed = turn.calls.map Call.noticed

/-- Steps that differ in the answers to notices alone have turns that do. -/
theorem alike_turn (server : Server) {step other : Step} (h : step.Alike other) :
    Turn.Alike (server.turn step) (server.turn other) := by
  have hTurn : (server.turn other).noticed = (server.turn step).noticed := by
    rw [← turn_attentive, h, turn_attentive]
  exact ⟨congrArg (·.server) hTurn, congrArg (·.completion) hTurn, congrArg (·.calls) hTurn⟩

/-- So have runs, which lead to the same server. -/
theorem alike_turns (server : Server) {steps others : List Step} (h : List.Forall₂ Step.Alike steps others) :
    List.Forall₂ Turn.Alike (server.turns steps) (server.turns others) ∧
      server.follow others = server.follow steps := by
  induction h generalizing server with
  | nil => exact ⟨.nil, rfl⟩
  | @cons step other rest others hStep _ ih =>
      have alike := server.alike_turn hStep
      -- The rest starts from the same server both times.
      obtain ⟨hTurns, hFollow⟩ := ih (server.turn step).server
      refine ⟨.cons alike ?_, ?_⟩
      · rw [alike.server_eq]
        exact hTurns
      calc
        server.follow (other :: others) = (server.turn other).server.follow others := rfl
        _ = (server.turn step).server.follow others := by rw [alike.server_eq]
        _ = server.follow (step :: rest) := hFollow

/-- Which notices get through, to process control while a process connects or for a relay, or to the accessibility
layer, makes no difference to anything else. Whatever the collaborators do apart from that, two servers that start
alike and are asked the same stay the same, finish each request in the same way and take the same calls for it. -/
theorem notices_without_influence {env other : Environment} {steps others : List Step}
    (hStart : env.Alike other) (hSteps : List.Forall₂ Step.Alike steps others) (options : Options)
    (histories : HistoryPool) (transport : Loopback) :
    start other options histories transport = start env options histories transport ∧
      ∀ server : Server, List.Forall₂ Turn.Alike (server.turns steps) (server.turns others) ∧
        server.follow others = server.follow steps := by
  refine ⟨?_, fun server => server.alike_turns hSteps⟩
  have hSystem : other.system = env.system := (congrArg Environment.system hStart :)
  simp only [start, hSystem]

/-- Somebody is watching, and a relay is asked to announce a process. -/
def watched : Environment :=
  { willing 1 with
    system := { (willing 1).system with createPipe := .ok (.ofBytes (Signal.encode (.notifyApp 9))) }
    accessibility := some fun _ _ => .ok () }

/-- The same, but nobody takes notice. -/
def unheeded : Environment :=
  { watched with
    control := fun _ _ => .error (.unavailable "process control")
    accessibility := some fun _ _ => .error (.unavailable "accessibility") }

/-- Two processes are hosted, one before and one after the window gets the focus. -/
def hosting (env : Environment) : List Step :=
  [.dispatch env (connecting 7), .focus true, .dispatch env (connecting 8)]

theorem notices_without_influence_unheeded :
    begun.follow (hosting unheeded) = begun.follow (hosting watched) ∧
      delegating.follow (hosting unheeded) = delegating.follow (hosting watched) ∧
      (begun.turns (hosting unheeded)).map Turn.completion = [some .completed, none, some .completed] ∧
      (delegating.turns (hosting unheeded)).map Turn.completion = [some .handedOff, none, some .handedOff] ∧
      .control (.setForeground 7 true) false ∈ (begun.turns (hosting unheeded)).flatMap Turn.calls := by
  have hEnv : watched.Alike unheeded := rfl
  have hSteps : List.Forall₂ Step.Alike (hosting watched) (hosting unheeded) :=
    .cons rfl (.cons rfl (.cons rfl .nil))
  obtain ⟨-, hSame⟩ := notices_without_influence hEnv hSteps begun.options (.ofCapacity 0)
    begun.transport
  exact ⟨(hSame begun).2, (hSame delegating).2, rfl, rfl, by decide⟩

end Server

end ConsoleHost
