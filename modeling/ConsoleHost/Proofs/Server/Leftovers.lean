import ConsoleHost.Proofs.Server.Departures

/-! What is left when a server is shut down. The session itself holds nothing any more, so what is left is what clients
have created and not closed, and it goes away as they close it. -/

namespace ConsoleHost

namespace Session

theorem Consistent.abandoned_teardown {s : Session} (consistent : s.Consistent) : s.teardown.registry.Abandoned :=
  ⟨consistent.teardown.sound, consistent.teardown.held, (consistent.teardown.down rfl).not_pins⟩

theorem records_teardown (s : Session) : s.teardown.processes.records = [] := records_foldl_rollback rfl

/-- Nothing is released twice. -/
theorem teardown_of_released {s : Session} (hNobody : s.processes.records = []) (hUp : s.initialized = false)
    (hInput : s.input = none) (hOutput : s.activeOutput = none) (hEvent : s.wakeEvent = none) : s.teardown = s := by
  have hPids : s.processes.pids = [] := by rw [ProcessTable.pids, hNobody, List.map_nil]
  rw [teardown, hPids, List.foldl_nil, hInput, hOutput]
  cases s
  cases hUp
  cases hInput
  cases hOutput
  cases hEvent
  rfl

theorem teardown_teardown (s : Session) : s.teardown.teardown = s.teardown :=
  teardown_of_released s.records_teardown rfl rfl rfl rfl

end Session

namespace Server

/-- The handle that a step asks to close. -/
def Step.closes? : Step → Option HandleId
  | .dispatch _ message =>
    match message.request with
    | .close => some message.descriptor.handle
    | _ => none
  | _ => none

theorem Step.eq_of_closes? {step : Step} {handle : HandleId} (h : step.closes? = some handle) :
    ∃ env message, step = .dispatch env message ∧ message.request = .close ∧ message.descriptor.handle = handle := by
  cases step with
  | dispatch env message =>
      rw [closes?] at h
      split at h
      · next hRequest => exact ⟨env, message, rfl, hRequest, Option.some.inj h⟩
      · cases h
  | shutdown => cases h
  | failNext => cases h
  | focus => cases h

/-- A turn was a request that was answered with success. -/
def Turn.Succeeds (turn : Turn) : Prop :=
  ∃ env message, turn.step = .dispatch env message ∧ turn.completion = some (.reply (message.reply .success))

/-- What a server is once it was shut down: nobody and nothing is there but what clients have created and not closed,
and they can still close it. -/
structure WoundUp (turns : List Turn) (server after : Server) : Prop where
  rest_eq : after = { server with session := after.session, shuttingDown := true }
  nobody : after.session.processes.records = []
  unlent : ∀ b ∈ after.session.histories.buffers, b.owner = none
  down : after.session.initialized = false ∧ after.session.input = none ∧ after.session.activeOutput = none ∧
    after.session.wakeEvent = none
  handles_eq : after.session.registry.handles.keys.map HandleId.number =
    (createdTokens turns).filter fun token => token ∉ closedTokens turns
  objects : ∀ id object, after.session.registry.object? id = some object →
    object.pinned = false ∧ after.session.registry.handlesOn id ≠ []
  accurate : after.session.registry.Few → after.session.registry.Accurate
  again : after.shutdown = (after, [])
  closable : ∀ steps, (steps.map Step.closes?).Perm (after.session.registry.handles.keys.map some) →
    (∀ turn ∈ after.turns steps, turn.Succeeds) ∧
      (after.follow steps).session.registry.objects = .empty ∧ (after.follow steps).session.registry.handles = .empty

variable {first server : Server} {turns : List Turn}

theorem turn_closes {step : Step} {handle : HandleId} (hStep : step.closes? = some handle)
    (hOpen : handle ∈ server.session.registry.handles.keys) :
    (server.turn step).Succeeds ∧
      (server.turn step).server.session.registry = server.session.registry.discardHandle handle := by
  obtain ⟨env, message, rfl, hRequest, rfl⟩ := Step.eq_of_closes? hStep
  obtain ⟨h, hHandle⟩ := Table.exists_get?_of_mem_keys hOpen
  have hClosed := Registry.closeHandle_of_open hHandle
  refine ⟨⟨env, message, rfl, ?_⟩, ?_⟩
  · simp only [turn, dispatch, hRequest, close, hClosed]
  · simp only [turn, dispatch, hRequest, close, hClosed]

/-- Handles that are all that is left can be closed in any order, and then nothing is left. -/
theorem follow_closes {steps : List Step} (abandoned : server.session.registry.Abandoned)
    (hCloses : (steps.map Step.closes?).Perm (server.session.registry.handles.keys.map some)) :
    (∀ turn ∈ server.turns steps, turn.Succeeds) ∧
      (server.follow steps).session.registry.objects = .empty ∧
      (server.follow steps).session.registry.handles = .empty := by
  induction steps generalizing server with
  | nil =>
      have hNone : server.session.registry.handles = .empty := by
        have hKeys := hCloses.nil_eq
        simp only [Table.keys, List.map_map] at hKeys
        exact congrArg Table.mk (List.map_eq_nil_iff.1 hKeys.symm)
      exact ⟨by simp [Server.turns], abandoned.objects_eq_empty hNone, hNone⟩
  | cons step rest ih =>
      -- The step takes one handle off those that are left, and is one less to be taken.
      obtain ⟨handle, hOpen, hStep⟩ := List.mem_map.1 (hCloses.subset (List.mem_cons_self ..))
      obtain ⟨succeeds, hRegistry⟩ := turn_closes hStep.symm hOpen
      have hLeft : (server.turn step).server.session.registry.handles.keys =
          server.session.registry.handles.keys.erase handle := by
        rw [hRegistry, Registry.handles_discardHandle, Table.keys_erase,
          abandoned.sound.handles_distinct.erase_eq_filter]
        exact List.filter_congr fun id _ => Bool.eq_iff_iff.2 (by simp)
      have hOthers : (rest.map Step.closes?).Perm
          ((server.turn step).server.session.registry.handles.keys.map some) := by
        rw [hLeft, List.map_erase fun _ _ => Option.some.inj, hStep]
        exact (List.cons_perm_iff_perm_erase.1 hCloses).2
      obtain ⟨hRest, hObjects, hHandles⟩ := ih (hRegistry ▸ abandoned.discardHandle handle) hOthers
      exact ⟨List.forall_mem_cons.2 ⟨succeeds, hRest⟩, hObjects, hHandles⟩

/-- A server that is shut down releases its processes, their buffers and its endpoints, and closes the wake event if it
has one. The handles that are left are those that create requests were answered with and that have not been closed.
They hold all the objects that are left, and once they are closed, in whatever order, nothing is left at all. While
fewer handles were opened than a 32-bit word can count, each of them has its object, and each object counts just the
handles on it. -/
theorem shutdown_releases (started : Started first) (run : Run first turns server) :
    WoundUp turns server server.shutdown.1 ∧ server.shutdown.2 = server.session.wakeEvent.toList.map .close := by
  have separates := run.separates started
  have consistent := separates.consistent
  have abandoned := consistent.abandoned_teardown
  refine ⟨⟨rfl, Session.records_teardown _, ?_, ⟨rfl, rfl, rfl, rfl⟩, ?_, ?_, abandoned.sound.accurate_of_few,
    ?_, ?_⟩, rfl⟩
  · intro b hMem
    obtain ⟨i, hb⟩ := List.mem_iff_getElem?.1 hMem
    refine Option.eq_none_iff_forall_ne_some.2 fun pid hOwner => ?_
    have hOwned := consistent.teardown.lent.mem i b pid hb hOwner
    rw [ProcessTable.pids, Session.records_teardown] at hOwned
    cases hOwned
  · rw [← separates.loose_eq]
    exact congrArg Ledger.tokens consistent.accounts_teardown.ledger_eq
  · exact fun id object => abandoned.opened
  · simp only [shutdown, Session.teardown_teardown]
    rfl
  · exact fun steps => follow_closes abandoned

/-- Of the buffers that were created, the one that was created last is closed first. -/
def clearing : List Step :=
  [.dispatch quiet ⟨⟨5, 0, 6, 0, 0, 0⟩, .close⟩, .dispatch quiet ⟨⟨6, 0, 3, 0, 0, 0⟩, .close⟩]

theorem shutdown_releases_crowded :
    let after := (begun.follow crowded).shutdown.1
    after.session.registry.handles.keys.map HandleId.number = [3, 6] ∧ after.session.registry.Accurate ∧
      (begun.follow crowded).shutdown.2 = [.close (StandIn.event 0)] ∧
      (after.follow clearing).session.registry.objects = .empty ∧
      (after.follow clearing).session.registry.handles = .empty := by
  have hStandard : ∀ step ∈ crowded, step.Standard := standard_quiet (by simp [crowded])
  have run : Run begun (begun.turns crowded) (begun.follow crowded) := Run.idle.follow hStandard
  obtain ⟨woundUp, hCalls⟩ := shutdown_releases started_begun run
  refine ⟨woundUp.handles_eq.trans (by decide), woundUp.accurate (by decide), hCalls.trans (by decide), ?_⟩
  exact (woundUp.closable clearing (by decide)).2

end Server

end ConsoleHost
