import ConsoleHost.Environment.Bare
import ConsoleHost.Server
import ConsoleHost.System.StandIn

/-! Runs of a server. Every request meets an environment of its own, so collaborators may behave
differently each time. Between requests the server may be shut down, the focus of the window may change
and deliveries to come may be made to fail. -/

namespace ConsoleHost

/-- A departing process is removed as usual, and the API layer leaves the session alone. Nothing else is
asked of the collaborators. -/
structure Environment.Standard (env : Environment) : Prop where
  depart_eq : env.depart = Session.depart
  session_answer : ∀ s message, (env.answer s message).2 = s

/-- The bare environment is a standard one. -/
theorem Environment.standard_bare (system : System) : (bare system).Standard := ⟨rfl, fun _ _ => rfl⟩

namespace Server

/-- What can happen to a server. -/
inductive Step where
  | dispatch (env : Environment) (message : Message)
  | shutdown
  | failNext (count : Nat)
  | focus (on : Bool)

def Step.Standard : Step → Prop
  | dispatch env _ => env.Standard
  | shutdown | failNext _ | focus _ => True

/-- A step that was taken, with the server after it, how a request was finished, and the calls made. -/
structure Turn where
  step : Step
  server : Server
  completion : Option Completion
  calls : List Call

def turn (server : Server) (step : Step) : Turn :=
  match step with
  | .dispatch env message =>
    let served := server.dispatch env message
    ⟨step, served.server, some served.completion, served.calls⟩
  | .shutdown =>
    let (after, calls) := server.shutdown
    ⟨step, after, none, calls⟩
  | .failNext count =>
    ⟨step, { server with transport := server.transport.failNext count }, none, []⟩
  | .focus on =>
    ⟨step, { server with session := { server.session with hasFocus := on } }, none, []⟩

theorem step_turn (server : Server) (step : Step) : (server.turn step).step = step := by
  cases step <;> rfl

/-- Any number of steps, from the first to the last. -/
inductive Run (first : Server) : List Turn → Server → Prop where
  | idle : Run first [] first
  | step {turns : List Turn} {server : Server} (prior : Run first turns server) (step : Step)
      (hStandard : step.Standard) :
      Run first (turns ++ [server.turn step]) (server.turn step).server

/-- A server as it starts, in any environment and with any number of history buffers. -/
def Started (server : Server) : Prop :=
  ∃ env options capacity serverHandle calls,
    start env options (.ofCapacity capacity) (.withServerHandle serverHandle) = (.ok server, calls)

/-- Only the options, the number of history buffers, the server handle and the wake event are open. -/
theorem Started.eq_fresh {server : Server} (started : Started server) : ∃ options capacity serverHandle event,
    server =
      { options := options
        session := .fresh (.ofCapacity capacity) options.launch.headless (some event)
        transport := .withServerHandle serverHandle
        telemetry := .empty
        shuttingDown := false } := by
  obtain ⟨env, options, capacity, serverHandle, calls, hStart⟩ := started
  rw [start] at hStart
  split at hStart
  · cases hStart
  · cases hStart
    exact ⟨options, capacity, serverHandle, _, rfl⟩

def Reachable (server : Server) : Prop :=
  ∃ first turns, Started first ∧ Run first turns server

theorem Started.reachable {server : Server} (h : Started server) : Reachable server :=
  ⟨server, [], h, .idle⟩

/-- A reachable server goes on to reachable ones. -/
theorem Reachable.step {server : Server} (reachable : Reachable server) (step : Step)
    (hStandard : step.Standard) : Reachable (server.turn step).server := by
  obtain ⟨first, turns, started, run⟩ := reachable
  exact ⟨first, _, started, run.step step hStandard⟩

/-- What holds at the start and is preserved by every step holds after a run. -/
theorem Run.invariant {first server : Server} {turns : List Turn} (run : Run first turns server)
    (I : Server → Prop) (hFirst : I first)
    (hStep : ∀ server step, step.Standard → I server → I (server.turn step).server) : I server := by
  induction run with
  | idle => exact hFirst
  | step _ step hStandard ih => exact hStep _ step hStandard ih

/-- Every turn of a run was taken by the server that the turns before it led to. -/
theorem Run.at_turn {first last : Server} {prior later : List Turn} {turn : Turn}
    (run : Run first (prior ++ turn :: later) last) :
    ∃ server, Run first prior server ∧ turn.step.Standard ∧ turn = server.turn turn.step := by
  generalize hAll : prior ++ turn :: later = turns at run
  induction run generalizing later with
  | idle => simp at hAll
  | @step turns server before step hStandard ih =>
      rcases List.eq_nil_or_concat later with rfl | ⟨rest, newest, rfl⟩
      · obtain ⟨rfl, hTurn⟩ := List.append_inj' hAll rfl
        cases hTurn
        exact ⟨server, before, by rwa [step_turn], by rw [step_turn]⟩
      · rw [List.concat_eq_append, ← List.cons_append, ← List.append_assoc] at hAll
        exact ih (List.append_inj' hAll rfl).1

/-- The server after several steps, one after the other. -/
def follow (server : Server) (steps : List Step) : Server :=
  steps.foldl (fun server step => (server.turn step).server) server

/-- Following two lists of steps is following the second from where the first led. -/
theorem follow_append (server : Server) (before after : List Step) :
    server.follow (before ++ after) = (server.follow before).follow after :=
  List.foldl_append ..

/-- The turns of several steps. -/
def turns (server : Server) : List Step → List Turn
  | [] => []
  | step :: rest => server.turn step :: (server.turn step).server.turns rest

/-- A run goes on along any standard steps. -/
theorem Run.follow {first server : Server} {prior : List Turn} (run : Run first prior server)
    {steps : List Step} (hStandard : ∀ step ∈ steps, step.Standard) :
    Run first (prior ++ server.turns steps) (server.follow steps) := by
  induction steps generalizing prior server with
  | nil => simpa [turns, Server.follow] using run
  | cons step rest ih =>
      have next := ih (run.step step (hStandard step (List.mem_cons_self ..)))
        fun later hMem => hStandard later (List.mem_cons_of_mem step hMem)
      simpa [turns, Server.follow] using next

/-- A reachable server goes on along any standard steps. -/
theorem Reachable.follow {server : Server} (reachable : Reachable server) {steps : List Step}
    (hStandard : ∀ step ∈ steps, step.Standard) : Reachable (server.follow steps) := by
  induction steps generalizing server with
  | nil => exact reachable
  | cons step rest ih =>
      exact ih (reachable.step step (hStandard step (List.mem_cons_self ..)))
        fun later hMem => hStandard later (List.mem_cons_of_mem step hMem)

/-! A server among collaborators of whom nothing is to be seen. -/

def quiet : Environment := .bare StandIn.fresh.system

def begun : Server where
  options := ⟨⟨false, false, false, false⟩, none, .standard⟩
  session := .fresh (.ofCapacity HistoryPool.defaultCapacity) false (some (StandIn.event 0))
  transport := .withServerHandle none
  telemetry := .empty
  shuttingDown := false

theorem started_begun : Started begun :=
  ⟨quiet, begun.options, HistoryPool.defaultCapacity, none, [.createEvent (some (StandIn.event 0))], rfl⟩

/-! A server that has a terminal to hand its session to, and hosts on which that terminal takes every
session. -/

def willing (issued : Nat) : Environment :=
  { Environment.bare
      { StandIn.system ⟨issued⟩ with interactive := true, duplicateProcess := .ok () } with
    activate := fun _ => .ok ()
    takeOver := fun _ => .ok () }

theorem standard_willing (issued : Nat) : (willing issued).Standard := ⟨rfl, fun _ _ => rfl⟩

def delegating : Server where
  options := ⟨⟨false, false, false, false⟩, some ⟨1⟩, .standard⟩
  session := .fresh (.ofCapacity HistoryPool.defaultCapacity) false (some (StandIn.event 0))
  transport := .withServerHandle (some ⟨0x500⟩)
  telemetry := .empty
  shuttingDown := false

theorem start_delegating :
    start quiet delegating.options (.ofCapacity HistoryPool.defaultCapacity)
        (.withServerHandle (some ⟨0x500⟩)) =
      (.ok delegating, [.createEvent (some (StandIn.event 0))]) := rfl

/-- A process connects that asks for nothing in particular. -/
def connecting (pid : UInt64) : Message where
  descriptor := ⟨1, pid, pid, 0, ConnectInfo.messageSize, 0⟩
  request := .connect ⟨true, true, 0, "", "", "", 0, 0, .zero, .zero⟩

/-- An output buffer is created and opened. -/
def creating : Message where
  descriptor := ⟨2, 0, 0, 0, 0, 0⟩
  request := .create ⟨.newOutput, .readWrite, .all, CreateRequest.textMode⟩

theorem standard_quiet {steps : List Step}
    (h : ∀ step ∈ steps, ∀ env message, step = .dispatch env message → env = quiet) :
    ∀ step ∈ steps, step.Standard := by
  intro step hMem
  cases step with
  | dispatch env message =>
      rw [Step.Standard, h _ hMem env message rfl]
      exact Environment.standard_bare _
  | shutdown => trivial
  | failNext count => trivial
  | focus on => trivial

/-- Steps of the quiet environment lead to reachable servers. -/
theorem reachable_quiet {steps : List Step}
    (h : ∀ step ∈ steps, ∀ env message, step = .dispatch env message → env = quiet) :
    Reachable (begun.follow steps) :=
  started_begun.reachable.follow (standard_quiet h)

end Server

end ConsoleHost
