import ConsoleHost.Proofs.Connect
import ConsoleHost.Proofs.Server.Invariant
import ConsoleHost.Proofs.Session.Admission

/-! How a connect request is decided. The verdict is known from the message, the session and the answers of the
collaborators it asks, before anything is done. -/

namespace ConsoleHost

namespace ConnectInfo

/-- What a connect message can be found invalid for. -/
theorem refusal_of_ofMessage {d : Descriptor} {m : ConnectMessage} {refusal : Refusal}
    (h : ofMessage d m = .error refusal) :
    (∃ field length limit, refusal = .oversized field length limit) ∨
      refusal = .invalidRequest "process id out of range" ∨
      refusal = .invalidRequest "thread id out of range" := by
  rw [ofMessage_eq, decided_eq_error_iff] at h
  obtain ⟨r, hMem, rfl⟩ := mem_of_objection? h
  simp only [required, requirements, List.mem_cons, List.not_mem_nil, or_false] at hMem
  rcases hMem with rfl | rfl | rfl | rfl | rfl | rfl
  · exact .inl ⟨_, _, _, rfl⟩
  · exact .inr (.inl rfl)
  · exact .inr (.inr rfl)
  · exact .inl ⟨_, _, _, rfl⟩
  · exact .inl ⟨_, _, _, rfl⟩
  · exact .inl ⟨_, _, _, rfl⟩

end ConnectInfo

namespace Handoff

/-- The handler registered under `target` is there, everything that it is offered can be had, and it takes the
session over. -/
def accepts (env : Environment) (serverHandle : Option RawHandle) (target : Clsid) (descriptor : Descriptor)
    (wakeEvent : RawHandle) : Bool :=
  succeeds (env.activate target) && env.system.createPipe.isOk && succeeds env.system.duplicateProcess &&
    serverHandle.any fun server => succeeds (env.takeOver (offerOf env descriptor server wakeEvent))

variable {env : Environment} {serverHandle : Option RawHandle} {target : Clsid} {descriptor : Descriptor}

/-- A negotiation succeeds exactly if the handler accepts. -/
theorem Negotiates.isOk_eq {wakeEvent : RawHandle} {exchange : Negotiation}
    (negotiates : Negotiates env serverHandle target descriptor wakeEvent exchange) :
    exchange.outcome.isOk = accepts env serverHandle target descriptor wakeEvent := by
  cases negotiates with
  | unregistered hActivate => simp [accepts, succeeds, Except.isOk, Except.toBool, hActivate]
  | noServer hActivate hServer => simp [accepts, Except.isOk, Except.toBool, hServer]
  | noPipe hActivate hServer hPipe => simp [accepts, Except.isOk, Except.toBool, hPipe]
  | noProcess hActivate hServer hPipe hProcess =>
      simp [accepts, succeeds, Except.isOk, Except.toBool, hProcess]
  | refused hActivate hServer hPipe hProcess hOffer =>
      simp [accepts, succeeds, Except.isOk, Except.toBool, hServer, hOffer]
  | accepted hActivate hServer hPipe hProcess hOffer =>
      simp [accepts, succeeds, Except.isOk, Except.toBool, hActivate, hServer, hPipe, hProcess, hOffer]

variable {s session : Session} {calls : List Call}

/-- Whether the handler accepts can be read off the negotiation. -/
theorem accepts_of_negotiate {outcome : Except Error Established}
    (hExchange : negotiate env serverHandle target descriptor (s.wakeEvent.getD .null) = ⟨outcome, calls⟩) :
    accepts env serverHandle target descriptor (s.wakeEvent.getD .null) = outcome.isOk := by
  rw [← (negotiates_negotiate env serverHandle target descriptor (s.wakeEvent.getD .null)).isOk_eq, hExchange]

/-- An attempt succeeds only if the handler accepts and the relay starts. -/
theorem accepts_of_attempt_ok {representative : RawHandle}
    (h : attempt env serverHandle target descriptor s = ⟨.ok representative, session, calls⟩) :
    accepts env serverHandle target descriptor (s.wakeEvent.getD .null) = true ∧
      succeeds env.startRelay = true := by
  cases attempts_of_attempt h with
  | relayed hExchange hRelay => exact ⟨accepts_of_negotiate hExchange, by rw [hRelay]; rfl⟩

/-- An attempt that fails has cost the session its wake event if the handler had accepted. -/
theorem accepts_of_attempt_error {failure : Error}
    (h : attempt env serverHandle target descriptor s = ⟨.error failure, session, calls⟩) :
    (accepts env serverHandle target descriptor (s.wakeEvent.getD .null) = false ∧ session = s) ∨
      (accepts env serverHandle target descriptor (s.wakeEvent.getD .null) = true ∧
        succeeds env.startRelay = false ∧ session = { s with wakeEvent := none }) := by
  cases attempts_of_attempt h with
  | failed hExchange => exact .inl ⟨accepts_of_negotiate hExchange, rfl⟩
  | unrelayed hExchange hRelay => exact .inr ⟨accepts_of_negotiate hExchange, by rw [hRelay]; rfl, rfl⟩

end Handoff

namespace Server

inductive Verdict where
  | handedOver
  | refused (status : Status)
  | admitted
  deriving DecidableEq

namespace Verdict

def ofRefusal : Option Status → Verdict
  | none => admitted
  | some status => refused status

/-- The request was finished as decided. The reply of a process that is admitted went to the transport,
whether it was delivered or not. -/
def Executed (message : Message) (served : Served) : Verdict → Prop
  | handedOver => served.completion = .handedOff
  | refused status => served.completion = .reply (message.reply status)
  | admitted =>
    served.completion = .completed ∧
      ∃ tokens delivered, .complete (connectedReply message tokens) delivered ∈ served.calls

variable {message : Message} {served first second : Served} {verdict : Verdict}

/-- The completion of a request is settled by its verdict. -/
theorem Executed.completion_eq (one : Executed message first verdict)
    (two : Executed message second verdict) : second.completion = first.completion := by
  cases verdict with
  | handedOver => exact Eq.trans two (Eq.symm one)
  | refused status => exact Eq.trans two (Eq.symm one)
  | admitted => exact Eq.trans two.1 (Eq.symm one.1)

/-- A connect that is answered with a status was refused with it. -/
theorem Executed.refused_of_reply (executed : Executed message served verdict) {reply : Reply}
    (h : served.completion = .reply reply) : verdict = .refused reply.status := by
  cases verdict with
  | handedOver => cases h.symm.trans executed
  | refused status =>
      cases h.symm.trans executed
      rfl
  | admitted => cases h.symm.trans executed.1

/-- Calls made before change nothing about how a request was finished. -/
theorem Executed.after_calls (executed : Executed message served verdict) (calls : List Call) :
    Executed message { served with calls := calls ++ served.calls } verdict := by
  cases verdict with
  | handedOver => exact executed
  | refused status => exact executed
  | admitted =>
      obtain ⟨hCompletion, tokens, delivered, hMem⟩ := executed
      exact ⟨hCompletion, tokens, delivered, List.mem_append_right _ hMem⟩

end Verdict

variable {env : Environment} {server : Server} {message : Message} {info : ConnectInfo}

/-- The session is offered to a handler, and the handler takes it. -/
def takenOver (env : Environment) (server : Server) (message : Message) (info : ConnectInfo) : Bool :=
  (server.handoffTarget? env info).any fun target =>
    Handoff.accepts env server.transport.serverHandle target message.descriptor
      (server.session.wakeEvent.getD .null)

/-- The session as bring-up meets it: a handler that took it over took its wake event along. -/
def offered (env : Environment) (server : Server) (message : Message) (info : ConnectInfo) : Session :=
  if server.takenOver env message info then { server.session with wakeEvent := none } else server.session

/-- The decision on a connect request, by the first reason that applies. The endpoints of the session are
`shared` or not. -/
def verdict (env : Environment) (server : Server) (message : Message) (request : ConnectMessage)
    (shared : Bool) : Verdict :=
  match ConnectInfo.ofMessage message.descriptor request with
  | .error refusal => .refused refusal.status
  | .ok info =>
    if server.takenOver env message info ∧ succeeds env.startRelay = true then .handedOver
    else
      .ofRefusal (Attach.refusal? env server.options.defaults server.options.launch.headless
        (server.offered env message info) shared info)

/-- Hosting a process follows the refusals of its session. -/
theorem Hosts.executed {issued : Nat} {served : Served} (hosts : Hosts env server issued message info served)
    (consistent : server.session.Consistent) :
    Verdict.Executed message served (.ofRefusal (Attach.refusal? env server.options.defaults
      server.options.launch.headless server.session server.session.permitsProcess info)) := by
  cases hosts with
  | refused hAttach =>
      rw [← (Attach.ends_of_run consistent hAttach).status?_eq consistent]
      exact rfl
  | delivered hAttach =>
      rw [← (Attach.ends_of_run consistent hAttach).status?_eq consistent]
      exact ⟨rfl, _, true, List.mem_append_right _ (List.mem_singleton_self _)⟩
  | undelivered hAttach =>
      rw [← (Attach.ends_of_run consistent hAttach).status?_eq consistent]
      exact ⟨rfl, _, false, List.mem_append_right _ (List.mem_singleton_self _)⟩

/-- Hosting a connect carries out the verdict on the process. -/
theorem executed_hostLocally (server : Server) (issued : Nat) (consistent : server.session.Consistent) :
    Verdict.Executed message (server.hostLocally env issued message info) (.ofRefusal
      (Attach.refusal? env server.options.defaults server.options.launch.headless server.session
        server.session.permitsProcess info)) :=
  hosts_hostLocally.executed consistent

/-- A connect that is offered is taken over exactly if the handler accepts. -/
theorem takenOver_eq {target : Clsid} (hTarget : server.handoffTarget? env info = some target) :
    server.takenOver env message info = Handoff.accepts env server.transport.serverHandle target
      message.descriptor (server.session.wakeEvent.getD .null) := by
  simp [takenOver, hTarget]

/-- Every connect carries out the verdict that was given before it. -/
theorem Connects.executed {request : ConnectMessage} {served : Served}
    (connects : Connects env server message request served) (consistent : server.session.Consistent) :
    Verdict.Executed message served
      (server.verdict env message request server.session.permitsProcess) := by
  cases connects with
  | invalid hInfo =>
      simp only [verdict, hInfo]
      exact rfl
  | @hosted info hInfo hTarget =>
      have hTaken : server.takenOver env message info = false := by simp [takenOver, hTarget]
      simp only [verdict, offered, hInfo, hTaken, Bool.false_eq_true, false_and, if_false]
      exact server.counted.executed_hostLocally 0 consistent
  | handedOver hInfo hTarget hAttempt =>
      obtain ⟨hAccepts, hRelay⟩ := Handoff.accepts_of_attempt_ok hAttempt
      rw [← takenOver_eq hTarget] at hAccepts
      simp only [verdict, hInfo, hAccepts, hRelay, and_self, if_true]
      exact rfl
  | @fellBack info target failure session calls _ hInfo hTarget hAttempt hServed =>
      subst hServed
      have hosted : Verdict.Executed message _ (.ofRefusal (Attach.refusal? env _ _ _ _ info)) :=
        (server.declined target failure session).executed_hostLocally (Call.issued calls).length
          (consistent_attempt consistent hTarget hAttempt)
      -- A handler that took the session keeps its event, although the relay did not start.
      rcases Handoff.accepts_of_attempt_error hAttempt with ⟨hAccepts, rfl⟩ | ⟨hAccepts, hRelay, rfl⟩
      · rw [← takenOver_eq hTarget] at hAccepts
        simp only [verdict, offered, hInfo, hAccepts, Bool.false_eq_true, false_and, if_false]
        exact hosted.after_calls calls
      · rw [← takenOver_eq hTarget] at hAccepts
        simp only [verdict, offered, hInfo, hAccepts, hRelay, Bool.false_eq_true, and_false, if_false,
          if_true]
        exact hosted.after_calls calls

theorem executed_dispatch {request : ConnectMessage} (reachable : Reachable server) (env : Environment)
    (hRequest : message.request = .connect request) :
    Verdict.Executed message (server.dispatch env message)
      (server.verdict env message request server.session.permitsProcess) :=
  (connects_dispatch hRequest).executed reachable.consistent

/-! The statuses that a connect request is refused with. -/

section

variable {request : ConnectMessage} {shared : Bool}

/-- A valid connect is refused with one of three statuses. -/
theorem verdict_of_valid {status : Status}
    (hInfo : ConnectInfo.ofMessage message.descriptor request = .ok info)
    (h : server.verdict env message request shared = .refused status) :
    status = .objectNameCollision ∨ status = .unsuccessful ∨ status = .sharingViolation := by
  simp only [verdict, hInfo] at h
  split at h
  · cases h
  · cases hRefusal : Attach.refusal? env server.options.defaults server.options.launch.headless
      (server.offered env message info) shared info with
    | none =>
        rw [hRefusal] at h
        cases h
    | some found =>
        rw [hRefusal] at h
        cases h
        exact Attach.status_of_refusal? hRefusal

/-- A connect that is not valid is refused with the status of its first objection. -/
theorem verdict_of_invalid {refusal : Refusal}
    (hInfo : ConnectInfo.ofMessage message.descriptor request = .error refusal) :
    server.verdict env message request shared = .refused refusal.status := by
  simp only [verdict, hInfo]

/-- A connect request is never refused for want of memory or of a handle, and as an invalid one only if its
message was found to be invalid. -/
theorem status_of_refused {status : Status}
    (h : server.verdict env message request shared = .refused status) :
    status ≠ .noMemory ∧ status ≠ .invalidHandle ∧
      (status = .invalidParameter → ∃ reason,
        ConnectInfo.ofMessage message.descriptor request = .error (.invalidRequest reason) ∧
          reason ≠ "object does not exist") := by
  cases hInfo : ConnectInfo.ofMessage message.descriptor request with
  | ok info =>
      rcases verdict_of_valid hInfo h with rfl | rfl | rfl
      · exact ⟨by decide, by decide, fun hInvalid => absurd hInvalid (by decide)⟩
      · exact ⟨by decide, by decide, fun hInvalid => absurd hInvalid (by decide)⟩
      · exact ⟨by decide, by decide, fun hInvalid => absurd hInvalid (by decide)⟩
  | error refusal =>
      cases (verdict_of_invalid hInfo).symm.trans h
      rcases ConnectInfo.refusal_of_ofMessage hInfo with ⟨field, length, limit, rfl⟩ | rfl | rfl
      · exact ⟨by simp [Refusal.status, Status.invalidBufferSize, Status.noMemory],
          by simp [Refusal.status, Status.invalidBufferSize, Status.invalidHandle],
          fun hInvalid => by simp [Refusal.status, Status.invalidBufferSize, Status.invalidParameter] at hInvalid⟩
      · exact ⟨by decide, by decide, fun _ => ⟨_, rfl, by decide⟩⟩
      · exact ⟨by decide, by decide, fun _ => ⟨_, rfl, by decide⟩⟩

/-- The verdict does not depend on the history buffers. -/
theorem verdict_histories (server : Server) (histories : HistoryPool) :
    { server with session := { server.session with histories := histories } }.verdict env message request
        shared =
      server.verdict env message request shared := by
  have hOffered (info : ConnectInfo) :
      { server with session := { server.session with histories := histories } }.offered env message info =
        { server.offered env message info with histories := histories } := by
    cases hTaken : server.takenOver env message info with
    | true =>
        simp only [offered, hTaken, if_true]
        exact if_pos hTaken
    | false =>
        simp only [offered, hTaken, Bool.false_eq_true, if_false]
        exact if_neg (Bool.not_eq_true _ ▸ hTaken)
  simp only [verdict, hOffered]
  rfl

end

/-- In every reachable state a connect request is finished by its verdict: refused for the first reason that
there is, and admitted if there is none. Whether the endpoints are shared is read off their counts, which
stand for the handles on them one by one while fewer handles were opened than a 32-bit word can count. A
handle or memory is never missing for a connect request. Process control, the accessibility layer and the
history buffers have no say in it. -/
theorem connect_decided {request : ConnectMessage} (reachable : Reachable server) (env : Environment)
    (hRequest : message.request = .connect request) :
    let served := server.dispatch env message
    (server.session.registry.Few → Verdict.Executed message served
      (server.verdict env message request (decide server.session.Shared))) ∧
    (∀ reply, served.completion = .reply reply →
      reply.status ≠ .noMemory ∧ reply.status ≠ .invalidHandle ∧
        (reply.status = .invalidParameter → ∃ reason,
          ConnectInfo.ofMessage message.descriptor request = .error (.invalidRequest reason) ∧
            reason ≠ "object does not exist")) ∧
    (∀ control accessibility,
      (server.dispatch { env with control := control, accessibility := accessibility } message).completion =
        served.completion) ∧
    ∀ other histories, Reachable other →
      other = { server with session := { server.session with histories := histories } } →
        (other.dispatch env message).completion = served.completion := by
  intro served
  have executed := executed_dispatch reachable env hRequest
  refine ⟨fun few => ?_, fun reply hReply => ?_, fun control accessibility => ?_,
    fun other histories hOther hEq => ?_⟩
  · rw [← reachable.consistent.permitsProcess_eq few]
    exact executed
  · exact status_of_refused (executed.refused_of_reply hReply)
  · exact executed.completion_eq (executed_dispatch reachable
      { env with control := control, accessibility := accessibility } hRequest)
  · have same : other.verdict env message request other.session.permitsProcess =
        server.verdict env message request server.session.permitsProcess := by
      subst hEq
      exact server.verdict_histories histories
    exact executed.completion_eq (same ▸ executed_dispatch hOther env hRequest)

/-- Nobody listens to what happens on this host. -/
def deaf : Environment :=
  { quiet with
    control := fun _ _ => .error (.unavailable "process control")
    accessibility := some fun _ _ => .error (.unavailable "accessibility") }

/-- A terminal takes every session on this host, but neither the relay nor a new event can be had. -/
def exhausted : Environment :=
  { willing 1 with
    startRelay := .error "no thread"
    system := { (willing 1).system with createEvent := .error (.failed "create event" "out of handles") } }

theorem connect_decided_deaf :
    ((begun.follow [.dispatch quiet (connecting 7)]).dispatch deaf (connecting 8)).completion = .completed ∧
      (delegating.dispatch exhausted (connecting 7)).completion =
        .reply ((connecting 7).reply .unsuccessful) := by
  have joined : Reachable (begun.follow [.dispatch quiet (connecting 7)]) := reachable_quiet (by simp)
  have started : Started delegating := ⟨quiet, _, _, _, _, start_delegating⟩
  let plain : ConnectMessage := ⟨true, true, 0, "", "", "", 0, 0, .zero, .zero⟩
  have hAdmits : (begun.follow [.dispatch quiet (connecting 7)]).verdict deaf (connecting 8) plain
      (decide (begun.follow [.dispatch quiet (connecting 7)]).session.Shared) = .admitted := by decide
  have hRefuses : delegating.verdict exhausted (connecting 7) plain (decide delegating.session.Shared) =
      .refused .unsuccessful := by decide
  have admitted := (connect_decided joined deaf (show (connecting 8).request = .connect plain from rfl)).1
    (by decide)
  have refused :=
    (connect_decided started.reachable exhausted (show (connecting 7).request = .connect plain from rfl)).1
      (by decide)
  rw [hAdmits] at admitted
  rw [hRefuses] at refused
  exact ⟨admitted.1, refused⟩

end Server

end ConsoleHost
