import ConsoleHost.Proofs.Hosting
import ConsoleHost.Proofs.Server.Invariant
import ConsoleHost.Proofs.Session.Persists

/-! A session that is up stays up, with the same endpoints under the same names, until it is shut down. Nothing
that its processes do and nothing that fails brings it up again or offers it to anybody. -/

namespace ConsoleHost.Server

variable {env : Environment} {server : Server} {message : Message}

/-! What is not a connect request leaves any session as it stands, up or down. -/

/-- A create request leaves a session that is up as it is, but for its objects. -/
theorem persists_create (request : CreateRequest) (consistent : server.session.Consistent) :
    server.session.Persists (server.create message request).server.session := by
  obtain ⟨registry, hSession, continues⟩ := continues_create consistent request
  rw [hSession]
  exact Session.persists_with_registry continues

theorem persists_close (consistent : server.session.Consistent) :
    server.session.Persists (server.close message).server.session := by
  obtain ⟨registry, hSession, continues⟩ := continues_close consistent
  rw [hSession]
  exact Session.persists_with_registry continues

/-- A disconnect leaves the session up with its endpoints, whoever is left. -/
theorem persists_disconnect (hStandard : env.Standard) (consistent : server.session.Consistent) :
    server.session.Persists (server.disconnect env message).server.session := by
  simp only [disconnect]
  split
  · exact consistent.persists
  · next record _ =>
      simp only [hStandard.depart_eq, Session.snd_depart]
      exact consistent.persists_rollback record.pid

theorem persists_api (hStandard : env.Standard) (consistent : server.session.Consistent) :
    server.session.Persists (server.api env message).server.session := by
  simp only [api]
  split
  · exact consistent.persists
  · simp only [hStandard.session_answer]
    exact consistent.persists

/-- Messages other than connects leave the session up with its endpoints. -/
theorem persists_dispatch_of_not_connect (hStandard : env.Standard) (consistent : server.session.Consistent)
    (hRequest : ∀ request, message.request ≠ .connect request) :
    server.session.Persists (server.dispatch env message).server.session := by
  simp only [dispatch]
  split
  · next request _ => exact persists_create request consistent
  · exact persists_close consistent
  · next hConnect => exact absurd hConnect (hRequest _)
  · exact persists_disconnect hStandard consistent
  · exact persists_api hStandard consistent

/-! A connect request finds nothing to do in a session that is up but to let the process join. -/

section

variable (hUp : server.session.initialized = true)

include hUp

/-- A session that is up is not handed over. -/
theorem handoffTarget?_of_initialized (info : ConnectInfo) : server.handoffTarget? env info = none := by
  refine Option.eq_none_iff_forall_ne_some.2 fun target hTarget => ?_
  cases hUp.symm.trans (initialized_of_handoffTarget? hTarget)

/-- Hosting a connect leaves a session that is up with its endpoints. -/
theorem Hosts.persists {issued : Nat} {info : ConnectInfo} {served : Served}
    (hosts : Hosts env server issued message info served) (consistent : server.session.Consistent) :
    server.session.Persists served.server.session := by
  cases hosts with
  | refused hAttach => exact (Attach.ends_of_run consistent hAttach).persists consistent hUp
  | delivered hAttach => exact (Attach.ends_of_run consistent hAttach).persists consistent hUp
  | undelivered hAttach =>
      have ends := Attach.ends_of_run consistent hAttach
      exact (ends.persists consistent hUp).trans ((ends.consistent consistent).persists_rollback info.pid)

/-- A connect leaves a session that is up with its endpoints. -/
theorem Connects.persists {request : ConnectMessage} {served : Served}
    (connects : Connects env server message request served) (consistent : server.session.Consistent) :
    server.session.Persists served.server.session := by
  cases connects with
  | invalid => exact consistent.persists
  | hosted =>
      have hCounted : server.counted.session.initialized = true := hUp
      exact hosts_hostLocally.persists hCounted consistent
  | handedOver _ hTarget => cases (handoffTarget?_of_initialized hUp _).symm.trans hTarget
  | fellBack _ hTarget => cases (handoffTarget?_of_initialized hUp _).symm.trans hTarget

/-- In a session that is up, a connect makes only calls that serve clients. -/
theorem Connects.serves {request : ConnectMessage} {served : Served} {call : Call}
    (connects : Connects env server message request served) (h : call ∈ served.calls) : call.serves = true := by
  cases connects with
  | invalid => cases h
  | hosted => exact (hosts_of_mem_hostLocally h).resolve_right fun hDown => by cases hUp.symm.trans hDown.1
  | handedOver _ hTarget => cases (handoffTarget?_of_initialized hUp _).symm.trans hTarget
  | fellBack _ hTarget => cases (handoffTarget?_of_initialized hUp _).symm.trans hTarget

/-- A step of a server whose session is up keeps the session as it is, and takes no calls but those on behalf of
processes. -/
theorem persists_turn {step : Step} (hStandard : step.Standard) (hKept : step ≠ .shutdown)
    (consistent : server.session.Consistent) :
    server.session.Persists (server.turn step).server.session ∧
      ∀ call ∈ (server.turn step).calls, call.serves = true := by
  cases step with
  | dispatch env message =>
      by_cases hRequest : ∃ request, message.request = .connect request
      · obtain ⟨request, hRequest⟩ := hRequest
        have connects : Connects env server message request (server.dispatch env message) :=
          connects_dispatch hRequest
        exact ⟨connects.persists hUp consistent, fun _ => connects.serves hUp⟩
      · rw [not_exists] at hRequest
        exact ⟨persists_dispatch_of_not_connect hStandard consistent hRequest,
          fun _ => serves_of_mem_dispatch hRequest⟩
  | shutdown => exact absurd rfl hKept
  | failNext count => exact ⟨consistent.persists, List.forall_mem_nil _⟩
  | focus on => exact ⟨⟨rfl, rfl, rfl, rfl, rfl, consistent.continues⟩, List.forall_mem_nil _⟩

end

/-- Until a shutdown, a session that is up keeps its endpoints, and all calls serve clients. -/
theorem Run.persists {later : Server} {turns : List Turn} (run : Run server turns later)
    (consistent : server.session.Consistent) (hUp : server.session.initialized = true)
    (hKept : ∀ turn ∈ turns, turn.step ≠ .shutdown) :
    server.session.Persists later.session ∧ ∀ turn ∈ turns, ∀ call ∈ turn.calls, call.serves = true := by
  induction run with
  | idle => exact ⟨consistent.persists, List.forall_mem_nil _⟩
  | @step turns middle prior step hStandard ih =>
      rw [List.forall_mem_append] at hKept
      obtain ⟨persists, hServes⟩ := ih hKept.1
      have hStep : step ≠ .shutdown := step_turn middle step ▸ hKept.2 _ (List.mem_singleton_self _)
      -- The session is still up, which is what the step has to know.
      have hStillUp : middle.session.initialized = true := persists.initialized_eq.trans hUp
      obtain ⟨next, hNext⟩ := persists_turn hStillUp hStandard hStep (prior.consistent consistent)
      exact ⟨persists.trans next, List.forall_mem_append.2 ⟨hServes, List.forall_mem_singleton.2 hNext⟩⟩

/-- From any point of a run at which the session is up to any later one with no shutdown between them, the session
keeps its wake event, its title and its two endpoints with their sizes, pinned under the same identifiers. The calls
in between are on behalf of processes: nothing is created for the session, and no handler is approached. -/
theorem initialized_stable {later : Server} {turns : List Turn} (reachable : Reachable server)
    (hUp : server.session.initialized = true) (run : Run server turns later)
    (hKept : ∀ turn ∈ turns, turn.step ≠ .shutdown) :
    (∃ event input output buffer window, server.session.Hosts event input output buffer window ∧
      later.session.Hosts event input output buffer window) ∧
      later.session.title = server.session.title ∧
      ∀ turn ∈ turns, ∀ call ∈ turn.calls, call.serves = true := by
  obtain ⟨persists, hServes⟩ := run.persists reachable.consistent hUp hKept
  obtain ⟨event, input, output, buffer, window, hosts⟩ := reachable.consistent.up hUp
  exact ⟨⟨event, input, output, buffer, window, hosts, hosts.persist persists⟩, persists.title_eq, hServes⟩

/-- A process is connected. -/
def populated : Server := begun.follow [.dispatch quiet (connecting 7)]

/-- The process connects a second time, a reply to another one is lost, and in the end both are gone and nobody has
the input open. -/
def leaving : List Step :=
  [.dispatch quiet (connecting 7), .dispatch quiet creating, .failNext 1, .dispatch quiet (connecting 9),
    .dispatch quiet ⟨⟨3, 0, 1, 0, 0, 0⟩, .close⟩, .dispatch quiet ⟨⟨4, 0x100000001, 0, 0, 0, 0⟩, .disconnect⟩]

theorem initialized_stable_leaving :
    populated.session.initialized = true ∧ populated.session.processes.pids = [7] ∧
      (populated.follow leaving).session.processes.pids = [] ∧
      (populated.follow leaving).session.initialized = true ∧
      (populated.follow leaving).session.activeOutputSize? = populated.session.activeOutputSize? ∧
      ∀ turn ∈ populated.turns leaving, ∀ call ∈ turn.calls, call.serves = true := by
  have hPopulated : Reachable populated := reachable_quiet (by simp)
  have hStandard : ∀ step ∈ leaving, step.Standard := by
    simp only [leaving, List.forall_mem_cons, Step.Standard, quiet, Environment.standard_bare]
    simp
  have run : Run populated (populated.turns leaving) (populated.follow leaving) :=
    Run.idle.follow hStandard
  obtain ⟨⟨event, input, output, buffer, window, before, after⟩, -, hServes⟩ :=
    initialized_stable hPopulated (by decide) run (by simp [leaving, turns, step_turn])
  refine ⟨before.initialized_eq, by decide, by decide, after.initialized_eq, ?_, hServes⟩
  rw [before.activeOutputSize?_eq, after.activeOutputSize?_eq]

end ConsoleHost.Server
