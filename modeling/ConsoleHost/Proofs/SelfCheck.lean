import ConsoleHost.CommandLine
import ConsoleHost.Proofs.Lodging
import ConsoleHost.Proofs.Server.Geometry
import ConsoleHost.Proofs.Server.Offers

/-! What a self-check comes to. Its client is alone in the session, shares all that it opens and closes what it has
opened, so that every request is answered in the same way whatever the options of the server say. -/

namespace ConsoleHost.SelfCheck

open Call

def line (name : String) (status : Status) (information : Nat) : String := answered name ⟨0, status, information, []⟩

def client : ConnectionTokens := ⟨0x100000001, 1, 2⟩

/-- The self-check after one request more, which has left the server like this. -/
def next (check : SelfCheck) (server : Server) (text : String) (calls : List Call) : SelfCheck where
  server := { server with transport := server.transport.takeCompleted.2 }
  requests := check.requests + 1
  report := check.report ++ [text]
  calls := check.calls ++ calls

/-- What has been reported and delivered so far. Nobody has been asked to take the session over. -/
structure Logs (check : SelfCheck) (report : List String) (replies : List Reply) : Prop where
  disabled : check.server.options.launch.disabled = true
  completed_eq : check.server.transport.completed = []
  delivers : check.server.transport.delivers = true
  report_eq : check.report = report
  delivered_eq : delivered check.calls = replies
  apart : Apart check.calls

/-- The client is connected and holds these handles. -/
structure Visits (check : SelfCheck) (tokens : List Nat) (last : Nat) (report : List String) (replies : List Reply) :
    Prop extends Logs check report replies where
  lodges : check.server.session.Lodges client tokens last
  telemetry_eq : check.server.telemetry = ⟨1, 0, []⟩

variable {check : SelfCheck} {probe : Probe} {server : Server} {calls : List Call} {reply : Reply}

/-- A request that is answered in place adds a line with its status. -/
theorem ask_of_reply {status : Status}
    (hServed : check.server.dispatch environment (probe.message (check.requests + 1)) =
      ⟨server, .reply ((probe.message (check.requests + 1)).reply status), calls⟩) :
    check.ask probe = (none, check.next server (line probe.name status 0) calls) := by
  simp only [ask, hServed]
  rfl

/-- A request that is completed adds a line with the status and the information of its reply. -/
theorem ask_of_completed (hServed : check.server.dispatch environment (probe.message (check.requests + 1)) =
    ⟨server, .completed, calls⟩) (hCompleted : server.transport.completed = [reply]) :
    check.ask probe = (some reply, check.next server (line probe.name reply.status reply.information) calls) := by
  simp only [ask, hServed, Loopback.takeCompleted, hCompleted]
  rfl

variable {tokens : List Nat} {last : Nat} {report : List String} {replies : List Reply}

/-- The report grows by a line with every request, and the replies by those that were delivered. -/
theorem Logs.next {more : List Reply} {completion : Completion} {message : Message}
    (logs : Logs check report replies)
    (hServed : check.server.dispatch environment message = ⟨server, completion, calls⟩)
    (hDelivers : server.transport.delivers = true) (hDelivered : delivered calls = more) (text : String) :
    Logs (check.next server text calls) (report ++ [text]) (replies ++ more) := by
  have hOptions : server.options = check.server.options := by
    have hSame : (check.server.dispatch environment message).server.options = _ := Server.options_dispatch
    rwa [hServed] at hSame
  have apart : Apart (check.server.dispatch environment message).calls := Server.apart_of_disabled logs.disabled
  rw [hServed] at apart
  refine ⟨?_, rfl, hDelivers, ?_, ?_, logs.apart.append apart⟩
  · rw [SelfCheck.next, hOptions]
    exact logs.disabled
  · rw [SelfCheck.next, logs.report_eq]
  · rw [SelfCheck.next, delivered_append, logs.delivered_eq, hDelivered]

/-- A request that the caller is answered changes nothing about deliveries. -/
theorem Logs.replied {completion : Completion} {message : Message} (logs : Logs check report replies)
    (hServed : check.server.dispatch environment message = ⟨server, completion, calls⟩)
    (hTransport : server.transport = check.server.transport) (hNothing : delivered calls = []) (text : String) :
    Logs (check.next server text calls) (report ++ [text]) replies := by
  have logs' := logs.next hServed (hTransport ▸ logs.delivers) hNothing text
  rwa [List.append_nil] at logs'

/-- A request that is answered in place keeps the visit going. -/
theorem Visits.replied {tokens' : List Nat} {last' : Nat} {status : Status}
    (visits : Visits check tokens last report replies)
    (hServed : check.server.dispatch environment (probe.message (check.requests + 1)) =
      ⟨server, .reply ((probe.message (check.requests + 1)).reply status), calls⟩)
    (hTransport : server.transport = check.server.transport) (hNothing : delivered calls = [])
    (lodges : server.session.Lodges client tokens' last') (hTelemetry : server.telemetry = check.server.telemetry) :
    Visits (check.ask probe).2 tokens' last' (report ++ [line probe.name status 0]) replies := by
  rw [ask_of_reply hServed]
  exact ⟨visits.toLogs.replied hServed hTransport hNothing _, lodges, hTelemetry.trans visits.telemetry_eq⟩

/-! Creations. -/

/-- A creation that shares everything and says what it is for. -/
def Probe.Opens (p : Probe) : Prop :=
  ∃ request, p.request = .create request ∧ request.share = .all ∧ request.bufferFlags = 1 ∧ ¬request.Ambiguous

/-- Opening an object answers the next handle. -/
theorem Visits.create (visits : Visits check tokens last report replies) (hLast : last < UInt32.size)
    (hOpens : probe.Opens) :
    ∃ reply, reply.information = last + 1 ∧ (check.ask probe).1 = some reply ∧
      Visits (check.ask probe).2 (tokens ++ [last + 1]) (last + 1)
        (report ++ [line probe.name .success (last + 1)]) (replies ++ [reply]) := by
  obtain ⟨request, hRequest, hShare, hFlags, hClear⟩ := hOpens
  obtain ⟨opened, hOpen, lodges⟩ := visits.lodges.openObject hLast hShare hFlags hClear
  have hDelivers : (check.server.transport.publish (.handle ⟨last + 1⟩)).delivers = true := visits.delivers
  let message := probe.message (check.requests + 1)
  let reply := { message.reply .success with information := last + 1 }
  have hServed : check.server.dispatch environment message =
      ⟨{ check.server with
          session := opened
          transport := (check.server.transport.publish (.handle ⟨last + 1⟩)).complete reply },
        .completed, [.publish (.handle ⟨last + 1⟩) (last + 1), .complete reply true]⟩ := by
    have hMessage : message.request = .create request := hRequest
    simp only [Server.dispatch, hMessage, Server.create, hOpen, hDelivers]
    rfl
  have hCompleted : ((check.server.transport.publish (.handle ⟨last + 1⟩)).complete reply).completed = [reply] := by
    rw [Loopback.completed_complete, hDelivers, Loopback.publish, visits.completed_eq]
    rfl
  have hStill : ((check.server.transport.publish (.handle ⟨last + 1⟩)).complete reply).delivers = true :=
    Loopback.delivers_complete hDelivers reply
  refine ⟨reply, rfl, ?_, ?_⟩
  · rw [ask_of_completed hServed hCompleted]
  · rw [ask_of_completed hServed hCompleted]
    exact ⟨visits.toLogs.next hServed hStill rfl _, lodges, visits.telemetry_eq⟩

/-- Creations get consecutive numbers. -/
theorem Visits.creations {probes : List Probe} (visits : Visits check tokens last report replies)
    (hLast : last + probes.length < UInt32.size) (hOpens : ∀ p ∈ probes, p.Opens) :
    (check.askAll probes).1.map Reply.information = List.range' (last + 1) probes.length ∧
      Visits (check.askAll probes).2 (tokens ++ List.range' (last + 1) probes.length) (last + probes.length)
        (report ++ List.zipWith (fun p token => line p.name .success token) probes
          (List.range' (last + 1) probes.length))
        (replies ++ (check.askAll probes).1) := by
  induction probes generalizing check tokens last report replies with
  | nil => simpa [askAll] using visits
  | cons probe rest ih =>
      obtain ⟨hFirst, hRest⟩ := List.forall_mem_cons.1 hOpens
      have hCount : last + (rest.length + 1) = last + 1 + rest.length := by omega
      rw [List.length_cons, hCount] at hLast
      obtain ⟨reply, hNumber, hReply, visits'⟩ := visits.create (by omega) hFirst
      obtain ⟨hNumbers, visited⟩ := ih visits' hLast hRest
      have hReplies : (check.askAll (probe :: rest)).1 = reply :: ((check.ask probe).2.askAll rest).1 := by
        simp only [askAll, hReply]
        rfl
      simp only [List.append_assoc, List.singleton_append] at visited
      rw [hReplies, List.map_cons, hNumber, hNumbers, List.length_cons, List.range'_succ, List.zipWith_cons_cons,
        hCount]
      exact ⟨rfl, visited⟩

/-! Requests that have to fail. -/

/-- An ambiguous create request is refused, and nothing changes. -/
theorem Visits.refused {request : CreateRequest} (visits : Visits check tokens last report replies)
    (hRequest : probe.request = .create request) (hAmbiguous : request.Ambiguous) :
    Visits (check.ask probe).2 tokens last (report ++ [line probe.name .invalidParameter 0]) replies := by
  obtain ⟨reason, hOpen⟩ := visits.lodges.openObject_of_ambiguous hAmbiguous
  let message := probe.message (check.requests + 1)
  have hServed : check.server.dispatch environment message =
      ⟨check.server, .reply (message.reply .invalidParameter), []⟩ := by
    have hMessage : message.request = .create request := hRequest
    simp only [Server.dispatch, hMessage, Server.create, hOpen]
    rfl
  exact visits.replied hServed rfl rfl visits.lodges rfl

/-- An API call is answered as not implemented. -/
theorem Visits.unsupported {call : ApiCall} (visits : Visits check tokens last report replies)
    (hRequest : probe.request = .api call) (hProcess : probe.process = client.process) :
    Visits (check.ask probe).2 tokens last (report ++ [line probe.name .notImplemented 0]) replies := by
  obtain ⟨record, -, hFind⟩ := visits.lodges.record
  let message := probe.message (check.requests + 1)
  have hServed : check.server.dispatch environment message =
      ⟨check.server, .reply (message.reply .notImplemented), [.api message]⟩ := by
    have hMessage : message.request = .api call := hRequest
    have hToken : message.descriptor.processToken = client.process := by
      show (UInt64.ofNat probe.process).toNat = client.process
      rw [hProcess]
      rfl
    simp only [Server.dispatch, hMessage, Server.api, hToken, hFind]
    rfl
  exact visits.replied hServed rfl rfl visits.lodges rfl

/-- The two requests that are expected to fail do. -/
theorem Visits.refusals (visits : Visits check tokens last report replies) :
    Visits (check.askAll (Probe.refusals client.process)).2 tokens last
      (report ++ [line "create read/write generic (expected to fail)" .invalidParameter 0,
        line "api call (expected to be unsupported)" .notImplemented 0]) replies := by
  have hAmbiguous : CreateRequest.Ambiguous ⟨.generic, .readWrite, .all, CreateRequest.textMode⟩ :=
    ⟨rfl, by decide, by decide⟩
  let probe : Probe := .create client.process "create read/write generic (expected to fail)" .generic .readWrite
  let other : Probe :=
    ⟨"api call (expected to be unsupported)", client.process, 0, 7, 0, .api ⟨0x01000001, []⟩⟩
  have refused : Visits (check.ask probe).2 _ _ _ _ := visits.refused rfl hAmbiguous
  have unsupported : Visits ((check.ask probe).2.ask other).2 _ _ _ _ := refused.unsupported rfl rfl
  rw [List.append_cons]
  exact unsupported

/-! What has been opened is closed. -/

/-- Closing a handle that the visit holds succeeds. -/
theorem Visits.close (visits : Visits check tokens last report replies) {token : Nat} (hHeld : token ∈ tokens)
    (hLast : last < UInt64.size) (process : Nat) :
    Visits (check.ask (.close process token)).2 (tokens.filter fun t => t ∉ [token]) last
      (report ++ [line "close" .success 0]) replies := by
  obtain ⟨x, closed, hClose, lodges⟩ := visits.lodges.closeHandle hHeld
  let message := (Probe.close process token).message (check.requests + 1)
  have hServed : check.server.dispatch environment message =
      ⟨{ check.server with session := { check.server.session with registry := closed } },
        .reply (message.reply .success), []⟩ := by
    have hHandle : message.descriptor.handle = ⟨token⟩ := by
      have hFits : token < UInt64.size := Nat.lt_of_le_of_lt (visits.lodges.token_le hHeld) hLast
      exact congrArg HandleId.mk (UInt64.toNat_ofNat_of_lt' hFits)
    have hMessage : message.request = .close := rfl
    simp only [Server.dispatch, hMessage, Server.close, hHandle, hClose]
  exact visits.replied hServed rfl rfl lodges rfl

/-- Closing several handles succeeds, one after the other. -/
theorem Visits.closings {closing : List Nat} (visits : Visits check tokens last report replies)
    (hNodup : closing.Nodup) (hHeld : ∀ token ∈ closing, token ∈ tokens) (hLast : last < UInt64.size) (process : Nat) :
    Visits (check.askAll (closing.map (Probe.close process))).2 (tokens.filter fun t => t ∉ closing) last
      (report ++ closing.map fun _ => line "close" .success 0) replies := by
  induction closing generalizing check tokens report with
  | nil => simpa [askAll] using visits
  | cons token rest ih =>
      obtain ⟨hNew, hRest⟩ := List.nodup_cons.1 hNodup
      obtain ⟨hFirst, hOthers⟩ := List.forall_mem_cons.1 hHeld
      have visits' := visits.close hFirst hLast process
      have hLeft : ∀ t ∈ rest, t ∈ tokens.filter fun t => t ∉ [token] := by
        intro t hMem
        have hNe : t ≠ token := fun hSame => hNew (hSame ▸ hMem)
        simpa [hNe] using hOthers t hMem
      have visited := ih visits' hRest hLeft
      rw [List.append_assoc, List.singleton_append, List.filter_filter] at visited
      have hSplit : (fun t => decide (t ∉ rest) && decide (t ∉ [token])) = fun t => decide (t ∉ token :: rest) := by
        funext t
        simp [Bool.and_comm]
      rw [hSplit] at visited
      exact visited

/-! The client leaves. -/

/-- A self-check whose client has come and gone. -/
structure Visited (check : SelfCheck) (report : List String) (replies : List Reply) : Prop
    extends Logs check report replies where
  shuttingDown_eq : check.server.shuttingDown = true
  telemetry_eq : check.server.telemetry = ⟨1, 1, []⟩

/-- The disconnect ends the visit. -/
theorem Visits.disconnect (visits : Visits check tokens last report replies) :
    Visited (check.ask (.disconnect client.process)).2 (report ++ [line "disconnect" .success 0]) replies := by
  obtain ⟨record, hFind, hLeft⟩ := visits.lodges.depart
  let message := (Probe.disconnect client.process).message (check.requests + 1)
  let server : Server :=
    { check.server with
      telemetry := check.server.telemetry.count .freeConsole
      session := (check.server.session.depart record.pid).2
      shuttingDown := true }
  have hServed : check.server.dispatch environment message = ⟨server, .reply (message.reply .success), []⟩ := by
    have hMessage : message.request = .disconnect := rfl
    have hToken : message.descriptor.processToken = client.process := rfl
    have hDepart : environment.depart = Session.depart := rfl
    simp only [Server.dispatch, hMessage, Server.disconnect, hToken, hFind, hDepart, hLeft, Bool.or_true]
    rfl
  rw [ask_of_reply hServed]
  refine ⟨visits.toLogs.replied hServed rfl rfl _, rfl, ?_⟩
  show check.server.telemetry.count .freeConsole = ⟨1, 1, []⟩
  rw [visits.telemetry_eq]
  rfl

def visitLines (last : Nat) : List String :=
  [line "create input" .success (last + 1), line "create output" .success (last + 2),
    line "create new output" .success (last + 3),
    line "create read/write generic (expected to fail)" .invalidParameter 0,
    line "api call (expected to be unsupported)" .notImplemented 0, line "close" .success 0, line "close" .success 0,
    line "close" .success 0, line "disconnect" .success 0]

theorem opens_of_mem_creations {process : Nat} : ∀ p ∈ Probe.creations process, p.Opens := by
  simp only [Probe.creations, List.forall_mem_cons]
  refine ⟨⟨_, rfl, rfl, rfl, ?_⟩, ⟨_, rfl, rfl, rfl, ?_⟩, ⟨_, rfl, rfl, rfl, ?_⟩, List.forall_mem_nil _⟩
  · exact fun hAmbiguous => hAmbiguous.2.1 (by decide)
  · exact fun hAmbiguous => hAmbiguous.2.2 (by decide)
  · exact fun hAmbiguous => nomatch hAmbiguous.1

/-- A whole visit: three objects are opened, two requests fail as expected, the handles are closed and the
process leaves. -/
theorem Visits.visit (visits : Visits check tokens last report replies) (hLast : last + 3 < UInt32.size) :
    ∃ created, created.map Reply.information = [last + 1, last + 2, last + 3] ∧
      Visited (check.visit client.process) (report ++ visitLines last) (replies ++ created) := by
  have hOpens : ∀ p ∈ Probe.creations client.process, p.Opens := opens_of_mem_creations
  have hFits : last + (Probe.creations client.process).length < UInt32.size := hLast
  obtain ⟨hNumbers, created⟩ := visits.creations hFits hOpens
  have refused := created.refusals
  have closed := refused.closings List.nodup_range' (fun _ hMem => List.mem_append_right _ hMem)
    (Nat.lt_trans hLast (by decide)) client.process
  have left := closed.disconnect
  simp only [List.append_assoc] at left
  have visited : Visited _ (report ++ visitLines last) _ := left
  rw [← hNumbers, List.map_map] at visited
  exact ⟨_, hNumbers, visited⟩

/-! The client connects. -/

def fresh (options : Options) (historyBuffers : Nat) : SelfCheck where
  server :=
    { options := { options with launch := { options.launch with disabled := true } }
      session := .fresh (.ofCapacity historyBuffers) options.launch.headless (some (StandIn.event 0))
      transport := .withServerHandle none
      telemetry := .empty
      shuttingDown := false }
  requests := 0
  report := []
  calls := [.createEvent (some (StandIn.event 0))]

variable {options : Options} {historyBuffers : Nat} {pid : UInt32}

/-- The check starts its own server, which nothing keeps from starting. -/
theorem start_eq : start options historyBuffers = .ok (fresh options historyBuffers) := rfl

theorem logs_fresh : Logs (fresh options historyBuffers) [] [] :=
  ⟨rfl, rfl, rfl, rfl, rfl, by simp [fresh, Apart, activated?, offered?]⟩

/-- The process token is the first of the tokens that a client is given. -/
theorem processToken?_of_ofBytes? {tokens : ConnectionTokens}
    (h : ConnectionTokens.ofBytes? reply.payload = some tokens) : processToken? reply = some tokens.process := by
  simp only [ConnectionTokens.ofBytes?] at h
  split at h
  · next hLength =>
      cases h
      simp [processToken?, hLength, ConnectionTokens.size]
  · cases h

/-- The message of the client is valid, whichever process it is. -/
theorem valid_connect (pid : UInt32) (number : Nat) : ∃ request, (Probe.connect pid).request = .connect request ∧
    ∃ info, ConnectInfo.ofMessage ((Probe.connect pid).message number).descriptor request = .ok info := by
  refine ⟨_, rfl, ?_⟩
  simp only [ConnectInfo.ofMessage_eq, ConnectInfo.decided_eq_ok_iff, ConnectInfo.required,
    ConnectInfo.objection?_requirements_eq_none_iff, exists_and_left, exists_eq', and_true]
  have hPid : pid.toNat < 0x100000000 := pid.toNat_lt
  have hSame : (UInt64.ofNat pid.toNat).toNat = pid.toNat :=
    UInt64.toNat_ofNat_of_lt' (Nat.lt_trans hPid (by decide))
  have hThread : (UInt64.ofNat 1).toNat < 0x100000000 := by decide
  exact ⟨rfl, lt_of_eq_of_lt hSame hPid, hThread, by decide, by decide, by decide⟩

/-- Nobody is connected, the wake event is there and a window is to be had, so nothing stands against the client. -/
theorem refusal?_fresh (shared : Bool) (info : ConnectInfo) :
    Attach.refusal? environment options.defaults options.launch.headless (fresh options historyBuffers).server.session
      shared info = none := by
  apply Attach.refusal?_of_not_fails List.not_mem_nil rfl
  simp [BringUp.Fails, fresh, Session.fresh, environment, Environment.bare, succeeds]

/-- The connect succeeds with the first tokens, whatever the options and the process. -/
theorem visits_connect (options : Options) (historyBuffers : Nat) (pid : UInt32) :
    ∃ reply, ConnectionTokens.ofBytes? reply.payload = some client ∧
      ((fresh options historyBuffers).ask (.connect pid)).1 = some reply ∧
      Visits ((fresh options historyBuffers).ask (.connect pid)).2 client.handles 2 [line "connect" .success 24]
        [reply] := by
  let check := fresh options historyBuffers
  let message := (Probe.connect pid).message (check.requests + 1)
  obtain ⟨request, hRequest, info, hInfo⟩ := valid_connect pid (check.requests + 1)
  have hMessage : message.request = .connect request := hRequest
  have hDispatch : check.server.dispatch environment message =
      check.server.counted.hostLocally environment 0 message info := by
    simp only [Server.dispatch, hMessage]
    exact Server.connect_of_hosted hInfo (Server.handoffTarget?_of_disabled rfl)
  have consistent : check.server.session.Consistent := Session.consistent_fresh ..
  have hosts : Server.Hosts environment check.server.counted 0 message info _ := Server.hosts_hostLocally
  obtain ⟨tokens, takesIn⟩ := hosts.takesIn hMessage hInfo consistent rfl rfl (refusal?_fresh _ info)
  have hTokens : tokens = client := by
    have hProcess : tokens.process = client.process := takesIn.process_eq
    obtain ⟨hInput, hOutput⟩ : tokens.input = client.input ∧ tokens.output = client.output := takesIn.joins.new
    cases tokens
    cases hProcess
    cases hInput
    cases hOutput
    rfl
  subst hTokens
  rcases hServed : check.server.counted.hostLocally environment 0 message info with ⟨server, completion, calls⟩
  rw [hServed] at hDispatch takesIn
  cases takesIn.completion_eq
  have logs := logs_fresh.next hDispatch takesIn.delivers takesIn.delivered_eq (line "connect" .success 24)
  refine ⟨Server.connectedReply message client, ?_, ?_, ?_⟩
  · exact ConnectionTokens.ofBytes?_toBytes client (by decide) (by decide) (by decide)
  · rw [ask_of_completed hDispatch takesIn.completed_eq]
  · rw [ask_of_completed hDispatch takesIn.completed_eq]
    exact ⟨logs, takesIn.lodges, takesIn.telemetry_eq⟩

def passing : List String :=
  ["=== consrv self-check ===",
   "",
   "connect                                          ok     0x00000000 info=24",
   "create input                                     ok     0x00000000 info=3",
   "create output                                    ok     0x00000000 info=4",
   "create new output                                ok     0x00000000 info=5",
   "create read/write generic (expected to fail)     failed 0xC000000D info=0",
   "api call (expected to be unsupported)            failed 0xC0000002 info=0",
   "close                                            ok     0x00000000 info=0",
   "close                                            ok     0x00000000 info=0",
   "close                                            ok     0x00000000 info=0",
   "disconnect                                       ok     0x00000000 info=0",
   "",
   "Lifecycle: ShuttingDown",
   "Telemetry: attach=1 free=1"]

theorem passing_eq : passing = title ++ (line "connect" .success 24 :: visitLines 2) ++
    ["", "Lifecycle: ShuttingDown", "Telemetry: attach=1 free=1"] := by
  decide +kernel

/-- A self-check that has passed. The handles that were created are others than those the client connected with. -/
structure Passes (result : Result) : Prop where
  failure_eq : result.failure = none
  lines_eq : result.lines = passing
  handles_eq : ∃ connected created, delivered result.calls = connected :: created ∧
    ConnectionTokens.ofBytes? connected.payload = some client ∧
    client.handles ++ created.map Reply.information = [1, 2, 3, 4, 5]
  unapproached : activations result.calls = [] ∧ offers result.calls = []

def result (check : SelfCheck) : Result :=
  ⟨title ++ check.report ++ summary check.server, none, check.calls ++ check.server.shutdown.2⟩

/-- A run is the connect and the visit behind it. -/
theorem run_eq (hReply : ((fresh options historyBuffers).ask (.connect pid)).1 = some reply)
    (hToken : processToken? reply = some client.process) :
    run options historyBuffers pid =
      result (((fresh options historyBuffers).ask (.connect pid)).2.visit client.process) := by
  simp only [run, start_eq, hReply, Option.bind_some, hToken]
  rfl

/-- The summary behind a visit is the same for every run. -/
theorem Visited.summary_eq (visited : Visited check report replies) :
    summary check.server = ["", "Lifecycle: ShuttingDown", "Telemetry: attach=1 free=1"] := by
  rw [summary, visited.shuttingDown_eq, visited.telemetry_eq]
  rfl

/-- Releasing the session at the end reaches nobody. -/
theorem unreached_shutdown (server : Server) : delivered server.shutdown.2 = [] ∧ Apart server.shutdown.2 := by
  cases hEvent : server.session.wakeEvent with
  | none => simp [Server.shutdown, hEvent, delivered, Apart]
  | some event => simp [Server.shutdown, hEvent, delivered, delivered?, Apart, activated?, offered?]

/-- Every run passes, whatever the options, the history buffers and the process. -/
theorem passes_run (options : Options) (historyBuffers : Nat) (pid : UInt32) :
    Passes (run options historyBuffers pid) := by
  obtain ⟨connected, hTokens, hReply, visits⟩ := visits_connect options historyBuffers pid
  obtain ⟨created, hNumbers, visited⟩ := visits.visit (by decide)
  rw [run_eq hReply (processToken?_of_ofBytes? hTokens)]
  generalize ((fresh options historyBuffers).ask (.connect pid)).2.visit client.process = check at visited
  obtain ⟨hNobody, released⟩ := unreached_shutdown check.server
  have apart := visited.apart.append released
  refine ⟨rfl, ?_, ⟨connected, created, ?_, hTokens, ?_⟩, apart.activations_eq, apart.offers_eq⟩
  · rw [result, visited.report_eq, visited.summary_eq, passing_eq]
    rfl
  · rw [result, delivered_append, visited.delivered_eq, hNobody, List.append_nil]
    rfl
  · rw [hNumbers]
    rfl

/-- A self-check passes, and its report is always the same: neither the options of the server nor the number of history
buffers nor the process that makes it shows in an identifier, a status or a count. The program that is asked for a
self-check prints this report and nothing else, whatever else its arguments and its settings say. -/
theorem passes_with_same_report (options : Options) (historyBuffers : Nat) (pid : UInt32) :
    Passes (run options historyBuffers pid) ∧
      ∀ (a : Arguments) (s : Settings),
        CommandLine.perform { a with selfCheck := true } s pid = ⟨0, Text.ofLines passing, ""⟩ := by
  refine ⟨passes_run options historyBuffers pid, fun a s => ?_⟩
  have passes := passes_run ({ a with selfCheck := true }.options s) s.historyBuffers pid
  simp only [CommandLine.perform, passes.failure_eq, passes.lines_eq, ↓reduceIte]

end ConsoleHost.SelfCheck
