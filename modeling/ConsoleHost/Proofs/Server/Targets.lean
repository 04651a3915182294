import ConsoleHost.Proofs.Server.Rejected
import ConsoleHost.Proofs.Session.Targets

/-! Create requests from the request to the reply. A request that is unfit or conflicts with an open handle is refused;
any other gets one handle, which is there exactly if the client has learnt its number. -/

namespace ConsoleHost.Server

variable {env : Environment} {server : Server} {message : Message} {request : CreateRequest} {served : Served}

/-- What becomes of the handle that was opened for a create request. -/
inductive Creates (server : Server) (message : Message) (request : CreateRequest) (served : Served) : Prop where
  /-- The client has its number. -/
  | delivered {handle : HandleId}
      (hCalls : served.calls = [.publish (.handle handle) handle.number,
        .complete { message.reply .success with information := handle.number } true])
      (grants : server.session.Grants request handle served.server.session) : Creates server message request served
  /-- The reply got lost, and with it everything that was opened or created for the request. The counts of an
  endpoint are back while few handles were opened. -/
  | lost {handle : HandleId}
      (hCalls : served.calls = [.publish (.handle handle) handle.number,
        .complete { message.reply .success with information := handle.number } false])
      (hRest : served.server.session = { server.session with registry := served.server.session.registry })
      (hHandles : served.server.session.registry.handles = server.session.registry.handles)
      (hOutline : served.server.session.registry.outline = server.session.registry.outline)
      (hObjects : request.type = .newOutput ∨ served.server.session.registry.Few →
        served.server.session.registry.objects = server.session.registry.objects) :
      Creates server message request served

/-- How a create request was served. Whether a handle on an endpoint conflicts is read off the counts of the
endpoint, which tell while few handles were opened. -/
structure Settled (server : Server) (message : Message) (request : CreateRequest) (served : Served) : Prop where
  invalid_iff : served.completion = .reply (message.reply .invalidParameter) ↔ server.session.Unfit request
  conflict_iff : server.session.registry.Few →
    (served.completion = .reply (message.reply .sharingViolation) ↔ server.session.Conflicts request)
  completed_iff : server.session.registry.Few →
    (served.completion = .completed ↔ ¬server.session.Unfit request ∧ ¬server.session.Conflicts request)
  newOutput_iff : request.type = .newOutput → (served.completion = .completed ↔ ¬server.session.Unfit request)
  creates : served.completion = .completed → Creates server message request served
  refused : served.completion ≠ .completed → served.server = server ∧ served.calls = []
  rest_eq : served.server =
    { server with session := served.server.session, transport := served.server.transport }

theorem creates_create {opened : Session} {handle : HandleId} (consistent : server.session.Consistent)
    (hOpen : server.session.openObject request = (.ok handle, opened)) :
    Creates server message request (server.create message request) := by
  have outcome := consistent.outcome_openObject request
  rw [hOpen] at outcome
  obtain ⟨registry, hKeeps⟩ := server.session.openObject_keeps request
  have hOpened : opened = { server.session with registry := registry } := by rw [← hKeeps, hOpen]
  obtain ⟨hHandles, hOutline, hObjects⟩ := outcome.restores consistent
  cases hDelivers : (server.transport.publish (.handle handle)).delivers with
  | true =>
      simp only [create, hOpen, hDelivers]
      exact .delivered rfl (outcome.grants consistent)
  | false =>
      simp only [create, hOpen, hDelivers]
      exact .lost rfl (by rw [hOpened]; rfl) hHandles hOutline hObjects

/-- A request that is refused: as an unfit one, or over the counts of the endpoint that it is for. -/
theorem settled_of_refused {refusal : Refusal}
    (hOpen : server.session.openObject request = (.error refusal, server.session))
    (hInvalid : refusal.status = .invalidParameter ↔ server.session.Unfit request)
    (hConflict : server.session.registry.Few →
      (refusal.status = .sharingViolation ↔ server.session.Conflicts request))
    (hRefused : server.session.Unfit request ∨
      request.type ≠ .newOutput ∧ (server.session.registry.Few → server.session.Conflicts request)) :
    Settled server message request (server.create message request) := by
  have hServed : server.create message request = ⟨server, .reply (message.reply refusal.status), []⟩ := by
    simp only [create, hOpen]
  rw [hServed]
  refine ⟨?_, fun few => ?_, fun few => ?_, fun hType => ?_, by simp, fun _ => ⟨rfl, rfl⟩, rfl⟩
  · simpa [Message.reply] using hInvalid
  · simpa [Message.reply] using hConflict few
  · simp only [reduceCtorEq, false_iff, not_and, not_not]
    intro hFit
    exact (hRefused.resolve_left hFit).2 few
  · simp only [reduceCtorEq, false_iff, not_not]
    exact hRefused.resolve_right fun h => h.1 hType

theorem settled_of_opened {opened : Session} {handle : HandleId} (consistent : server.session.Consistent)
    (hOpen : server.session.openObject request = (.ok handle, opened)) (hFit : ¬server.session.Unfit request)
    (hPeace : server.session.registry.Few → ¬server.session.Conflicts request) :
    Settled server message request (server.create message request) := by
  have hCompletion : (server.create message request).completion = .completed := by
    simp only [create, hOpen]
  refine ⟨?_, fun few => ?_, fun few => ?_, fun _ => iff_of_true hCompletion hFit,
    fun _ => creates_create consistent hOpen, fun hOther => absurd hCompletion hOther, ?_⟩
  · exact iff_of_false (by simp [hCompletion]) hFit
  · exact iff_of_false (by simp [hCompletion]) (hPeace few)
  · exact iff_of_true hCompletion ⟨hFit, hPeace few⟩
  · simp only [create, hOpen]

theorem settled_create (consistent : server.session.Consistent) (request : CreateRequest) :
    Settled server message request (server.create message request) := by
  have outcome := consistent.outcome_openObject request
  have hDiffer : Status.invalidParameter ≠ .sharingViolation := by decide
  generalize hOpen : server.session.openObject request = result at outcome
  cases outcome with
  | unfit unfit =>
      have hPeace : ¬server.session.Conflicts request := fun conflicts => by
        obtain ⟨id, targets⟩ := conflicts.exists_targets
        exact consistent.not_unfit targets unfit
      exact settled_of_refused hOpen (iff_of_true rfl unfit) (fun _ => iff_of_false hDiffer hPeace) (.inl unfit)
  | conflict targets hObject hRefused =>
      have conflicts (few : server.session.registry.Few) : server.session.Conflicts request :=
        (consistent.conflicts_iff_not_permits few targets hObject).2 hRefused
      exact settled_of_refused hOpen (iff_of_false hDiffer.symm (consistent.not_unfit targets))
        (fun few => iff_of_true rfl (conflicts few)) (.inr ⟨targets.type_ne, conflicts⟩)
  | endpoint targets hObject hPermits =>
      refine settled_of_opened consistent hOpen (consistent.not_unfit targets) fun few conflicts => ?_
      cases hPermits.symm.trans ((consistent.conflicts_iff_not_permits few targets hObject).1 conflicts)
  | newOutput hFit hType =>
      refine settled_of_opened consistent hOpen hFit fun _ conflicts => ?_
      obtain ⟨id, targets⟩ := conflicts.exists_targets
      exact targets.type_ne hType

/-- Input is opened to be read by one client alone. -/
def monopolizing : Message where
  descriptor := ⟨3, 0, 0, 0, 0, 0⟩
  request := .create ⟨.generic, ⟨0x80000001⟩, ⟨0⟩, 0⟩

/-- In every state of a running server, a create request is refused as invalid exactly if it is unfit, and with a
sharing violation exactly if a handle that is open on its endpoint conflicts with it; a refusal changes nothing. Any
other request gets one new handle, as it asks for it, on the endpoint it is for or on an output buffer created for it,
and nothing else changes; if the reply is lost, the objects and the handles are as before. A generic request is for
the input exactly if it asks just to read, for the output exactly if it asks just to write, and a request for a buffer
of its own is refused for its flags alone. What rests on the counts of an endpoint holds while fewer handles were opened
than a 32-bit word can count. -/
theorem create_settled (reachable : Reachable server) (hRequest : message.request = .create request)
    (env : Environment) :
    Settled server message request (server.dispatch env message) ∧
      (∀ id, request.type = .generic → server.session.Targets request id →
        (server.session.input = some id ↔ request.AsksOnly .genericRead) ∧
          (server.session.activeOutput = some id ↔ request.AsksOnly .genericWrite)) ∧
      (request.type = .newOutput → server.session.initialized = true →
        ((server.dispatch env message).completion = .reply (message.reply .invalidParameter) ↔
          request.bufferFlags ≠ 1) ∧
        (request.bufferFlags = 1 → (server.dispatch env message).completion = .completed)) := by
  have consistent := reachable.consistent
  have settled : Settled server message request (server.dispatch env message) := by
    rw [dispatch, hRequest]
    exact settled_create consistent request
  refine ⟨settled, fun id hType targets => consistent.eq_some_iff_of_generic targets hType, fun hType hUp => ?_⟩
  have hUnfit : server.session.Unfit request ↔ request.bufferFlags ≠ 1 := by
    constructor
    · rintro (hDown | ⟨-, hFlags⟩ | ⟨hGeneric, -⟩)
      · cases hUp.symm.trans hDown
      · exact hFlags
      · cases hType.symm.trans hGeneric
    · exact .flags hType
  exact ⟨settled.invalid_iff.trans hUnfit,
    fun hFlags => (settled.newOutput_iff hType).2 fun unfit => hUnfit.1 unfit hFlags⟩

/-- While a process is connected a buffer can be created, and input is not to be had alone. -/
theorem create_settled_populated :
    Creates populated creating ⟨.newOutput, .readWrite, .all, 1⟩ (populated.dispatch quiet creating) ∧
      populated.session.Conflicts ⟨.generic, ⟨0x80000001⟩, ⟨0⟩, 0⟩ := by
  have hReachable : Reachable populated := reachable_quiet (by simp)
  obtain ⟨created, -⟩ := create_settled hReachable (show creating.request = .create _ from rfl) quiet
  obtain ⟨refused, -⟩ := create_settled hReachable (show monopolizing.request = .create _ from rfl) quiet
  exact ⟨created.creates (by decide), (refused.conflict_iff (by decide)).1 (by decide)⟩

end ConsoleHost.Server
