import ConsoleHost.Proofs.Server.Creations
import ConsoleHost.Proofs.Server.Primaries
import ConsoleHost.Proofs.Server.Tokens
import ConsoleHost.Proofs.Session.Departures

/-! What a disconnect request releases. The process that its token addresses takes with it what it brought, and nothing
that came to the session by a create request or with another process. -/

namespace ConsoleHost.Server

/-- The server is rid of one process. The handles that were closed for it came with its connection, and no create
request was ever answered with one of them. The accessibility layer, if there is one, is told once. -/
structure Departs (env : Environment) (turns : List Turn) (server : Server) (message : Message) (p : ProcessRecord)
    (served : Served) : Prop where
  completion_eq : served.completion = .reply (message.reply .success)
  rest_eq : served.server =
    { server with
      session := served.server.session
      telemetry := server.telemetry.count .freeConsole
      shuttingDown := served.server.shuttingDown }
  releases : server.session.Releases p served.server.session
  connected : p.tokens ∈ (account turns).connections ∧ p.primaryHandles = p.tokens.handles.map HandleId.mk
  not_created : ∀ handle ∈ p.primaryHandles, handle.number ∉ createdTokens turns
  unnoticed : env.accessibility = none → served.calls = []
  noticed : ∀ notify, env.accessibility = some notify →
    served.calls = [.accessibility .ended p.pid (succeeds (notify .ended p.pid))]

variable {first server : Server} {turns : List Turn} {p : ProcessRecord}

theorem Separates.primary_not_created (separates : Separates turns server)
    (hMem : p ∈ server.session.processes.records) :
    ∀ handle ∈ p.primaryHandles, handle.number ∉ createdTokens turns := by
  intro handle hHandle hCreated
  obtain ⟨-, hInput, hOutput⟩ := separates.consistent.complete p hMem
  rw [Session.primaryHandles_of_complete hInput hOutput] at hHandle
  obtain ⟨token, hToken, rfl⟩ := List.mem_map.1 hHandle
  exact separates.apart token hCreated
    (List.mem_flatMap.2 ⟨p.tokens, List.mem_map_of_mem hMem, hToken⟩)

/-- A process that disconnects is removed from the session with its hold on a history buffer and with those of its two
handles that are still open. Their numbers never stand for anything else, however many handles were closed and opened
since, and no endpoint goes with them. All other records, handles, objects and buffers, and the state of the session
itself, are as they were. -/
theorem disconnect_releases {env : Environment} {message : Message} (started : Started first)
    (run : Run first turns server) (hDepart : env.depart = Session.depart) (hRequest : message.request = .disconnect)
    (hMem : p ∈ server.session.processes.records) (hToken : p.token = some message.descriptor.processToken) :
    Departs env turns server message p (server.dispatch env message) := by
  have separates := run.separates started
  have consistent := separates.consistent
  obtain ⟨-, hInput, hOutput⟩ := consistent.complete p hMem
  have hNodup := (run.addressable started).tokens_nodup
  rw [ProcessTable.map_token_members] at hNodup
  have hFind := (ProcessTable.findByToken?_eq_some_iff hNodup).2 ⟨hMem, hToken⟩
  have releases := consistent.releases_rollback (run.owned started) hMem
  have hConnected : p.tokens ∈ (account turns).connections := by
    rw [← separates.ledger_eq]
    exact List.mem_map_of_mem hMem
  simp only [dispatch, hRequest, disconnect, hFind, hDepart, Session.snd_depart]
  refine ⟨rfl, rfl, releases, ⟨hConnected, Session.primaryHandles_of_complete hInput hOutput⟩,
    separates.primary_not_created hMem, ?_, ?_⟩
  · intro hNobody
    rw [Environment.accessibilityCalls, hNobody]
  · intro notify hNotify
    rw [Environment.accessibilityCalls, hNotify]

/-- Two processes are connected. The first has closed its input handle, and both have created a buffer since. -/
def crowded : List Step :=
  [.dispatch quiet (connecting 7), .dispatch quiet ⟨⟨3, 0, 1, 0, 0, 0⟩, .close⟩, .dispatch quiet creating,
    .dispatch quiet (connecting 9), .dispatch quiet creating]

/-- Somebody listens to what the accessibility layer is told. -/
def heard : Environment := { quiet with accessibility := some fun _ _ => .ok () }

theorem disconnect_releases_crowded :
    (begun.follow crowded).session.registry.handles.keys.map HandleId.number = [2, 3, 4, 5, 6] ∧
      let served := (begun.follow crowded).dispatch heard ⟨⟨4, 0x100000001, 0, 0, 0, 0⟩, .disconnect⟩
      served.server.session.registry.handles.keys.map HandleId.number = [3, 4, 5, 6] ∧
        served.server.session.processes.pids = [9] ∧ served.calls = [.accessibility .ended 7 true] := by
  have hStandard : ∀ step ∈ crowded, step.Standard := standard_quiet (by simp [crowded])
  have run : Run begun (begun.turns crowded) (begun.follow crowded) := Run.idle.follow hStandard
  obtain ⟨p, hMem, hToken, hPid, hPrimary⟩ : ∃ p ∈ (begun.follow crowded).session.processes.records,
      p.token = some 0x100000001 ∧ p.pid = 7 ∧ p.primaryHandles = [⟨1⟩, ⟨2⟩] := by decide
  have departs : Departs heard _ _ ⟨⟨4, 0x100000001, 0, 0, 0, 0⟩, .disconnect⟩ p _ :=
    disconnect_releases started_begun run rfl rfl hMem hToken
  refine ⟨by decide, ?_, ?_, ?_⟩
  · rw [Table.keys, departs.releases.handles_eq, hPrimary]
    decide
  · decide
  · rw [departs.noticed _ rfl, hPid]
    rfl

end ConsoleHost.Server
