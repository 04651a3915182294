import ConsoleHost.Proofs.Server.Ledger
import ConsoleHost.Proofs.Server.Members
import ConsoleHost.Proofs.Server.Stable
import ConsoleHost.Proofs.Session.Joins

/-! What a delivered connection establishes: the reply carries three tokens, and the session has them where later
requests will look for them. Tokens are counted upwards, a few to a step, so that it takes an endless run to come to one
that does not fit into 64 bits. -/

namespace ConsoleHost

open Call

theorem Call.delivered_append_of_unreached {before : List Call} (hBefore : reaching before = []) (calls : List Call) :
    delivered (before ++ calls) = delivered calls := by
  rw [← delivered_reaching, reaching_append, hBefore, List.nil_append, delivered_reaching]

/-- The three words of a payload are the tokens, each as far as 64 bits go. -/
theorem ConnectionTokens.ofBytes?_toBytes_mod (t : ConnectionTokens) :
    ofBytes? t.toBytes = some ⟨t.process % UInt64.size, t.input % UInt64.size, t.output % UInt64.size⟩ := by
  have h (n : Nat) : LittleEndian.value (LittleEndian.bytes 8 n) = n % UInt64.size := LittleEndian.value_bytes 8 n
  simp only [ofBytes?, length_toBytes, ↓reduceIte, Option.some.injEq]
  simp [toBytes, List.drop_append, List.drop_of_length_le, h]

namespace Server

variable {env : Environment} {server : Server} {message : Message} {request : ConnectMessage} {served : Served}
  {reply : Reply}

/-- What the client of a connect request and the session have in common once the reply has been delivered. -/
structure Establishes (server : Server) (message : Message) (request : ConnectMessage) (tokens : ConnectionTokens)
    (served : Served) : Prop where
  delivered_eq : delivered served.calls = [connectedReply message tokens]
  process_eq : tokens.process = Loopback.processTokenBase + server.transport.processTokens + 1
  joins : server.session.Joins message.descriptor request tokens served.server.session

/-- An attach whose reply is delivered has established the connection. -/
theorem establishes_of_attached {issued : Nat} {info : ConnectInfo} {tokens : ConnectionTokens} {session : Session}
    {transport : Loopback} {calls : List Call} (consistent : server.session.Consistent)
    (hInfo : ConnectInfo.ofMessage message.descriptor request = .ok info)
    (hAttach : Attach.run env server.options.defaults server.options.launch.headless issued server.session
      server.transport info = ⟨.ok tokens, session, transport, calls⟩) :
    Establishes server message request tokens
      ⟨{ server with session := session, transport := transport.complete (connectedReply message tokens) }, .completed,
        calls ++ [.complete (connectedReply message tokens) true]⟩ := by
  have ends := Attach.ends_of_run consistent hAttach
  have hCalls := ends.reaching_of_ok consistent rfl
  refine ⟨?_, ?_, ends.joins_of_ok consistent hInfo rfl⟩
  · rw [← delivered_reaching, reaching_append, hCalls]
    rfl
  · cases ends with
    | attached _ _ _ _ _ _ hPublished =>
      subst hPublished
      rfl

/-- A connect that is hosted here and whose reply is delivered has established the connection. -/
theorem Hosts.establishes {issued : Nat} {info : ConnectInfo} (hosts : Hosts env server issued message info served)
    (consistent : server.session.Consistent) (hInfo : ConnectInfo.ofMessage message.descriptor request = .ok info)
    (hReply : reply ∈ Call.delivered served.calls) : ∃ tokens, Establishes server message request tokens served := by
  cases hosts with
  | refused hAttach =>
      have hNothing := (Attach.ends_of_run consistent hAttach).reaching_of_error consistent rfl
      rw [← delivered_reaching, hNothing] at hReply
      cases hReply
  | undelivered hAttach =>
      have hCalls := (Attach.ends_of_run consistent hAttach).reaching_of_ok consistent rfl
      rw [← delivered_reaching, reaching_append, hCalls] at hReply
      cases hReply
  | delivered hAttach => exact ⟨_, establishes_of_attached consistent hInfo hAttach⟩

/-- A connect whose reply is delivered has established the connection. -/
theorem Connects.establishes (connects : Connects env server message request served)
    (consistent : server.session.Consistent) (hReply : reply ∈ delivered served.calls) :
    ∃ tokens, Establishes server message request tokens served := by
  cases connects with
  | invalid => cases hReply
  | @hosted info hInfo =>
      have hosts : Hosts env server.counted 0 message info (server.counted.hostLocally env 0 message info) :=
        hosts_hostLocally
      obtain ⟨tokens, established⟩ := hosts.establishes consistent hInfo hReply
      exact ⟨tokens, established.delivered_eq, established.process_eq, established.joins⟩
  | handedOver _ _ hAttempt =>
      rw [Call.delivered_append_of_unreached (accounts_attempt hAttempt).2] at hReply
      cases hReply
  | @fellBack info target failure session calls served hInfo hTarget hAttempt hServed =>
      have hosts : Hosts env (server.declined target failure session) _ message info served :=
        hServed ▸ hosts_hostLocally
      have hBefore : reaching calls = [] := (accounts_attempt hAttempt).2
      rw [Call.delivered_append_of_unreached hBefore] at hReply
      obtain ⟨tokens, established⟩ := hosts.establishes (consistent_attempt consistent hTarget hAttempt) hInfo hReply
      have joins : session.Joins message.descriptor request tokens served.server.session := established.joins
      refine ⟨tokens, ?_, established.process_eq, ?_⟩
      · rw [Call.delivered_append_of_unreached hBefore]
        exact established.delivered_eq
      · rcases Handoff.session_of_attempt hAttempt with hSame | hGiven
        · cases hSame
          exact joins
        · cases hGiven
          exact joins.of_wakeEvent (initialized_of_handoffTarget? hTarget)

end Server

/-! No step uses up more than two handle numbers and one process token. -/

/-- Bring-up issues no handle of the registry. -/
theorem BringUp.Ends.lastHandle_eq {env : Environment} {defaults : SessionDefaults} {headless : Bool} {issued : Nat}
    {s : Session} {info : ConnectInfo} {o : Outcome} (ends : Ends env defaults headless issued s info o) :
    o.session.registry.lastHandle = s.registry.lastHandle := by
  cases ends with
  | already => rfl
  | noEvent => rfl
  | noWindow => rfl
  | raised => rfl

/-- An attach issues two handles of the registry at most. -/
theorem Attach.Ends.lastHandle_le {env : Environment} {defaults : SessionDefaults} {headless : Bool} {issued : Nat}
    {s : Session} {t : Loopback} {info : ConnectInfo} {o : Outcome}
    (ends : Ends env defaults headless issued s t info o) (consistent : s.Consistent) :
    o.session.registry.lastHandle ≤ s.registry.lastHandle + 2 := by
  cases ends with
  | known => exact Nat.le_add_right _ 2
  | notUp _ hUp =>
      have hSame := (BringUp.ends_of_run consistent.sound hUp).lastHandle_eq
      exact Nat.le_add_right_of_le (Nat.le_of_eq hSame)
  | inputRefused => exact Nat.le_add_right _ 2
  | outputRefused _ _ _ _ _ _ restores =>
      exact Nat.le_trans (Nat.le_of_eq restores.lastHandle_eq) (Nat.le_succ _)
  | attached _ hUp _ _ hOne hTwo =>
      have hSame := (BringUp.ends_of_run consistent.sound hUp).lastHandle_eq
      have hFirst := Registry.lastHandle_openHandle hOne
      have hLast := Registry.lastHandle_openHandle hTwo
      simp only [Session.withProcess] at hSame ⊢
      omega

namespace Server

variable {env : Environment} {server : Server} {message : Message} {request : ConnectMessage} {served : Served}
  {step : Step}

/-- So does a connect that is hosted here. -/
theorem Hosts.lastHandle_le {issued : Nat} {info : ConnectInfo} (hosts : Hosts env server issued message info served)
    (consistent : server.session.Consistent) :
    served.server.session.registry.lastHandle ≤ server.session.registry.lastHandle + 2 := by
  cases hosts with
  | refused hAttach => exact (Attach.ends_of_run consistent hAttach).lastHandle_le consistent
  | delivered hAttach => exact (Attach.ends_of_run consistent hAttach).lastHandle_le consistent
  | undelivered hAttach =>
      simp only [Session.lastHandle_rollback]
      exact (Attach.ends_of_run consistent hAttach).lastHandle_le consistent

/-- So does every connect. -/
theorem Connects.lastHandle_le (connects : Connects env server message request served)
    (consistent : server.session.Consistent) :
    served.server.session.registry.lastHandle ≤ server.session.registry.lastHandle + 2 := by
  cases connects with
  | invalid => exact Nat.le_add_right _ 2
  | @hosted info =>
      have hosts : Hosts env server.counted 0 message info (server.counted.hostLocally env 0 message info) :=
        hosts_hostLocally
      exact hosts.lastHandle_le consistent
  | handedOver _ _ hAttempt =>
      have hSame := Handoff.registry_of_attempt hAttempt
      exact Nat.le_add_right_of_le (Nat.le_of_eq (congrArg Registry.lastHandle hSame))
  | @fellBack info target failure session calls served _ hTarget hAttempt hServed =>
      have hosts : Hosts env (server.declined target failure session) _ message info served :=
        hServed ▸ hosts_hostLocally
      have hLe : served.server.session.registry.lastHandle ≤ session.registry.lastHandle + 2 :=
        hosts.lastHandle_le (consistent_attempt consistent hTarget hAttempt)
      have hSame : session.registry = server.session.registry := Handoff.registry_of_attempt hAttempt
      rwa [hSame] at hLe

theorem lastHandle_create_le (sound : server.session.registry.Sound) (request : CreateRequest) :
    (server.create message request).server.session.registry.lastHandle ≤ server.session.registry.lastHandle + 2 := by
  obtain ⟨refusal, hOpen⟩ | ⟨session, hOpen, opens⟩ := Session.openObject_cases sound request
  · simp only [create, hOpen]
    exact Nat.le_add_right _ 2
  · obtain ⟨-, -, hLast, -⟩ := opens.keys_eq
    simp only [create, hOpen]
    cases (server.transport.publish (.handle server.session.registry.nextHandle)).delivers with
    | true =>
        simp only [↓reduceIte]
        omega
    | false =>
        simp only [Bool.false_eq_true, ↓reduceIte, Registry.lastHandle_discardHandle]
        omega

theorem lastHandle_close_le :
    (server.close message).server.session.registry.lastHandle ≤ server.session.registry.lastHandle + 2 := by
  have hSame : (server.close message).server.session.registry.lastHandle = server.session.registry.lastHandle :=
    Registry.lastHandle_discardHandle
  rw [hSame]
  exact Nat.le_add_right _ 2

/-- A step issues one process token at most. -/
theorem processTokens_turn_le (server : Server) (hStandard : step.Standard) :
    (server.turn step).server.transport.processTokens ≤ server.transport.processTokens + 1 := by
  have hGrows : ∃ count ≤ 1, server.transport.Grows (server.turn step).server.transport count := by
    cases server.moves_turn hStandard.keepsMembers with
    | kept _ _ grows => exact ⟨0, Nat.zero_le 1, grows⟩
    | joined _ _ _ _ _ _ grows => exact ⟨1, Nat.le_refl 1, grows⟩
    | unheard _ _ _ _ grows => exact ⟨1, Nat.le_refl 1, grows⟩
    | left _ _ _ grows => exact ⟨0, Nat.zero_le 1, grows⟩
    | closed _ _ grows => exact ⟨0, Nat.zero_le 1, grows⟩
  obtain ⟨count, hCount, grows⟩ := hGrows
  rw [grows.processTokens_eq]
  omega

/-- A step issues two handles of the registry at most. -/
theorem lastHandle_turn_le (hStandard : step.Standard) (consistent : server.session.Consistent) :
    (server.turn step).server.session.registry.lastHandle ≤ server.session.registry.lastHandle + 2 := by
  cases step with
  | failNext => exact Nat.le_add_right _ 2
  | focus => exact Nat.le_add_right _ 2
  | shutdown =>
      have hSame := Session.lastHandle_foldl_rollback server.session.processes.pids server.session
      simp only [turn, shutdown, Session.teardown, Session.lastHandle_unpin?, hSame]
      exact Nat.le_add_right _ 2
  | dispatch env message =>
      simp only [turn, dispatch]
      cases message.request with
      | create request => exact lastHandle_create_le consistent.sound request
      | connect request => exact connects_connect.lastHandle_le consistent
      | close => exact lastHandle_close_le
      | disconnect =>
          simp only [disconnect]
          split
          · exact Nat.le_add_right _ 2
          · simp only [Environment.Standard.depart_eq hStandard, Session.snd_depart, Session.lastHandle_rollback]
            exact Nat.le_add_right _ 2
      | api call =>
          simp only [api]
          split
          · exact Nat.le_add_right _ 2
          · simp only [Environment.Standard.session_answer hStandard]
            exact Nat.le_add_right _ 2

/-- In a run of so many steps, twice as many handles and as many processes can have got numbers. -/
theorem Run.numbers_le {first : Server} {turns : List Turn} (run : Run first turns server) (started : Started first) :
    server.session.registry.lastHandle ≤ 2 * turns.length ∧ server.transport.processTokens ≤ turns.length := by
  induction run with
  | idle =>
      obtain ⟨options, capacity, serverHandle, event, rfl⟩ := started.eq_fresh
      exact ⟨Nat.le_refl _, Nat.le_refl _⟩
  | @step turns server prior step hStandard ih =>
      obtain ⟨hHandles, hProcesses⟩ := ih
      have hHandle := lastHandle_turn_le hStandard (prior.consistent started.consistent)
      have hProcess := server.processTokens_turn_le hStandard
      rw [List.length_append, List.length_singleton]
      omega

/-- A run of fewer than two thousand million steps opens few handles, so the counts of all objects are exact. -/
theorem Run.few {first : Server} {turns : List Turn} (run : Run first turns server) (started : Started first)
    (hShort : 2 * turns.length < UInt32.size) : server.session.registry.Few :=
  Nat.lt_of_le_of_lt (run.numbers_le started).1 hShort

/-- In every state of a running server, a connect request is answered once at most, and if the reply is delivered its
24 bytes are three words of 64 bits, which are the tokens of the process and of its two handles as far as they fit, and
the tokens themselves unless the run was longer than any can be. Its record is then the last one, the two handles are
the only new ones and are on the endpoints of the session, the counts of both endpoints are larger by one, and nothing
else has changed but for the foreground rights, which are those that the session grants. -/
theorem connect_establishes {first : Server} {turns : List Turn} {reply : Reply} (started : Started first)
    (run : Run first turns server) (hRequest : message.request = .connect request) (env : Environment)
    (hDelivered : reply ∈ delivered (server.dispatch env message).calls) :
    delivered (server.dispatch env message).calls = [reply] ∧
      reply.identifier = message.descriptor.identifier ∧ reply.status = .success ∧ reply.payload.length = 24 ∧
      ∃ tokens : ConnectionTokens,
        ConnectionTokens.ofBytes? reply.payload =
          some ⟨tokens.process % UInt64.size, tokens.input % UInt64.size, tokens.output % UInt64.size⟩ ∧
        (4 * turns.length < UInt64.size → ConnectionTokens.ofBytes? reply.payload = some tokens) ∧
        server.session.Joins message.descriptor request tokens (server.dispatch env message).server.session := by
  have consistent := run.consistent started.consistent
  obtain ⟨tokens, established⟩ := (connects_dispatch hRequest).establishes consistent hDelivered
  have hReplies := established.delivered_eq
  rw [hReplies, List.mem_singleton] at hDelivered
  subst hDelivered
  refine ⟨hReplies, rfl, rfl, tokens.length_toBytes, tokens, tokens.ofBytes?_toBytes_mod, ?_, established.joins⟩
  intro hShort
  obtain ⟨hInput, hOutput⟩ := established.joins.new
  obtain ⟨hHandles, hProcesses⟩ := run.numbers_le started
  have hProcess := established.process_eq
  have hBase : Loopback.processTokenBase = 4294967296 := rfl
  have hSize : UInt64.size = 18446744073709551616 := rfl
  have hCapacity : LittleEndian.capacity 8 = UInt64.size := rfl
  apply tokens.ofBytes?_toBytes
  · omega
  · omega
  · omega

/-- A second process connects. -/
theorem connect_establishes_populated :
    ∃ request, populated.session.Joins (connecting 9).descriptor request ⟨0x100000002, 3, 4⟩
      (populated.dispatch quiet (connecting 9)).server.session := by
  have hStandard : ∀ step ∈ [Step.dispatch quiet (connecting 7)], step.Standard := standard_quiet (by simp)
  have run : Run begun (begun.turns [.dispatch quiet (connecting 7)]) populated := Run.idle.follow hStandard
  have hDelivered : connectedReply (connecting 9) ⟨0x100000002, 3, 4⟩ ∈
      delivered (populated.dispatch quiet (connecting 9)).calls := by decide
  obtain ⟨-, -, -, -, tokens, -, hTokens, joins⟩ := connect_establishes started_begun run rfl quiet hDelivered
  have hSame := hTokens (by decide)
  rw [connectedReply, ConnectionTokens.ofBytes?_toBytes _ (by decide) (by decide) (by decide)] at hSame
  cases hSame
  exact ⟨_, joins⟩

end Server

end ConsoleHost
