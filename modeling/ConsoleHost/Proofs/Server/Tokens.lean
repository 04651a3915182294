import ConsoleHost.Proofs.Server.Members

/-! The tokens of processes. Every token is given out once, and it addresses the connection that it was given out
for until that ends, and nobody afterwards. -/

namespace ConsoleHost

namespace ProcessTable

variable {p : ProcessTable} {record : ProcessRecord} {token : Nat}

/-- A token addresses nobody if no record has it. -/
theorem findByToken?_eq_none_iff :
    p.findByToken? token = none ↔ ∀ r ∈ p.records, r.token ≠ some token := by
  simp [findByToken?]

/-- Where no two records have the same token, a token addresses the record that has it. -/
theorem findByToken?_eq_some_iff (nodup : (p.records.map ProcessRecord.token).Nodup) :
    p.findByToken? token = some record ↔ record ∈ p.records ∧ record.token = some token := by
  constructor
  · intro h
    exact ⟨List.mem_of_find?_eq_some h, by simpa using List.find?_some h⟩
  · rintro ⟨hMem, hToken⟩
    cases hFind : p.findByToken? token with
    | none => exact absurd hToken (findByToken?_eq_none_iff.1 hFind record hMem)
    | some found =>
        have hFound : found.token = some token := by simpa using List.find?_some hFind
        rw [List.inj_on_of_nodup_map nodup (List.mem_of_find?_eq_some hFind) hMem
          (hFound.trans hToken.symm)]

theorem map_token_members :
    p.members.records.map ProcessRecord.token = p.records.map ProcessRecord.token := by
  simp [members, setForeground]

end ProcessTable

/-- The members of a session have tokens that were given out, each its own. -/
structure Addressable (p : ProcessTable) (t : Loopback) : Prop where
  pids_nodup : p.pids.Nodup
  tokens_nodup : (p.records.map ProcessRecord.token).Nodup
  token_eq : ∀ r ∈ p.records, ∃ n,
    r.token = some (Loopback.processTokenBase + n) ∧ 0 < n ∧ n ≤ t.processTokens
  published_ge : t.processTokens ≤ t.published.length

/-- The token was given out and addresses nobody. -/
structure Spent (p : ProcessTable) (t : Loopback) (token : Nat) : Prop where
  token_le : token ≤ Loopback.processTokenBase + t.processTokens
  find_eq_none : p.findByToken? token = none

namespace Addressable

variable {p p' : ProcessTable} {t t' : Loopback}

/-- No record has a token that has not been issued yet. -/
theorem token_le (addressable : Addressable p t) {r : ProcessRecord} (hMem : r ∈ p.records) {token : Nat}
    (hToken : r.token = some token) : token ≤ Loopback.processTokenBase + t.processTokens := by
  obtain ⟨n, hEq, _, hLe⟩ := addressable.token_eq r hMem
  cases hToken.symm.trans hEq
  omega

/-- Fewer members, and no fewer tokens given out. -/
theorem sublist (addressable : Addressable p t) (hSub : p'.records.Sublist p.records)
    (grows : t.Grows t' 0) : Addressable p' t' where
  pids_nodup := addressable.pids_nodup.sublist (hSub.map _)
  tokens_nodup := addressable.tokens_nodup.sublist (hSub.map _)
  token_eq r hMem := by
    have hEq := addressable.token_eq r (hSub.subset hMem)
    rwa [grows.processTokens_eq]
  published_ge := by
    have hPublished := grows.published_le
    rw [grows.processTokens_eq]
    exact Nat.le_trans addressable.published_ge hPublished

/-- Records stay addressable when more tokens are issued. -/
theorem grow (addressable : Addressable p t) {count : Nat} (grows : t.Grows t' count) :
    Addressable p t' where
  pids_nodup := addressable.pids_nodup
  tokens_nodup := addressable.tokens_nodup
  token_eq r hMem := by
    obtain ⟨n, hEq, hPos, hLe⟩ := addressable.token_eq r hMem
    exact ⟨n, hEq, hPos, by rw [grows.processTokens_eq]; omega⟩
  published_ge := by
    have hBefore := addressable.published_ge
    have hPublished := grows.published_le
    rw [grows.processTokens_eq]
    omega

/-- A member joins with the next token. -/
theorem enter (addressable : Addressable p t) {record : ProcessRecord} (hNew : record.pid ∉ p.pids)
    (hToken : record.token = some (Loopback.processTokenBase + t.processTokens + 1))
    (grows : t.Grows t' 1) : Addressable (p.enter record) t' where
  pids_nodup := by
    rw [ProcessTable.pids_enter, ← List.concat_eq_append]
    exact addressable.pids_nodup.concat hNew
  tokens_nodup := by
    have hFresh : record.token ∉ p.records.map ProcessRecord.token := by
      intro hMem
      obtain ⟨r, hRecord, hEq⟩ := List.mem_map.1 hMem
      have hLe := addressable.token_le hRecord (hEq.trans hToken)
      omega
    rw [ProcessTable.enter, List.map_append, List.map_singleton, ← List.concat_eq_append]
    exact addressable.tokens_nodup.concat hFresh
  token_eq r hMem := by
    rcases List.mem_append.1 hMem with hOld | hLast
    · exact (addressable.grow grows).token_eq r hOld
    · cases List.mem_singleton.1 hLast
      exact ⟨t.processTokens + 1, hToken, Nat.succ_pos _, Nat.le_of_eq grows.processTokens_eq.symm⟩
  published_ge := (addressable.grow grows).published_ge

end Addressable

namespace Server

variable {step : Step} {p p' : ProcessTable} {t t' : Loopback} {calls : List Call} {record : ProcessRecord}
  {token : Nat}

/-- Records stay addressable through a move. -/
theorem Moves.addressable (moves : Moves step p t p' t' calls) (addressable : Addressable p t) :
    Addressable p' t' := by
  cases moves with
  | kept _ hMembers grows =>
      subst hMembers
      exact addressable.grow grows
  | joined _ _ hNew hToken hFresh hMembers grows =>
      subst hMembers
      exact addressable.enter hNew (hFresh ▸ hToken) grows
  | unheard _ _ _ hMembers grows =>
      subst hMembers
      exact addressable.grow grows
  | left _ _ hMembers grows =>
      subst hMembers
      exact addressable.sublist List.eraseP_sublist grows
  | closed _ hMembers grows =>
      exact addressable.sublist (hMembers ▸ List.nil_sublist _) grows

/-- A token goes on addressing its member while no step ends that. -/
theorem Moves.addresses (moves : Moves step p t p' t' calls) (addressable : Addressable p t)
    (h : p.findByToken? token = some record) (hEnds : ¬step.Ends token) :
    p'.findByToken? token = some record := by
  have after := moves.addressable addressable
  obtain ⟨hMem, hToken⟩ := (ProcessTable.findByToken?_eq_some_iff addressable.tokens_nodup).1 h
  refine (ProcessTable.findByToken?_eq_some_iff after.tokens_nodup).2 ⟨?_, hToken⟩
  cases moves with
  | kept _ hMembers => exact hMembers ▸ hMem
  | joined _ _ _ _ _ hMembers => exact hMembers ▸ List.mem_append_left _ hMem
  | unheard _ _ _ hMembers => exact hMembers ▸ hMem
  | @left gone other hFind hOnly hMembers =>
      obtain ⟨hGone, hOther⟩ := (ProcessTable.findByToken?_eq_some_iff addressable.tokens_nodup).1 hFind
      have hPid : record.pid ≠ gone.pid := by
        -- Members with one process identifier are one member, with one token.
        intro hSame
        cases List.inj_on_of_nodup_map addressable.pids_nodup hMem hGone hSame
        cases hOther.symm.trans hToken
        exact hEnds ((hOnly token).2 rfl)
      rw [hMembers]
      exact (List.mem_eraseP_of_neg (by simpa using hPid)).2 hMem
  | closed hAll => exact absurd (hAll token) hEnds

/-- A token that has been issued stays so. -/
theorem Moves.token_le (moves : Moves step p t p' t' calls)
    (h : token ≤ Loopback.processTokenBase + t.processTokens) :
    token ≤ Loopback.processTokenBase + t'.processTokens := by
  have hGrows : ∃ count, t.Grows t' count := by
    cases moves with
    | kept _ _ grows => exact ⟨_, grows⟩
    | joined _ _ _ _ _ _ grows => exact ⟨_, grows⟩
    | unheard _ _ _ _ grows => exact ⟨_, grows⟩
    | left _ _ _ grows => exact ⟨_, grows⟩
    | closed _ _ grows => exact ⟨_, grows⟩
  obtain ⟨count, grows⟩ := hGrows
  rw [grows.processTokens_eq]
  omega

/-- A token is spent once its connection has ended. -/
theorem Moves.spent_of_ends (moves : Moves step p t p' t' calls) (addressable : Addressable p t)
    (h : p.findByToken? token = some record) (hEnds : step.Ends token) : Spent p' t' token := by
  obtain ⟨hMem, hToken⟩ := (ProcessTable.findByToken?_eq_some_iff addressable.tokens_nodup).1 h
  refine ⟨moves.token_le (addressable.token_le hMem hToken),
    ProcessTable.findByToken?_eq_none_iff.2 fun r hLeft hSame => ?_⟩
  cases moves with
  | kept hNone => cases h.symm.trans (hNone token hEnds)
  | joined _ hNever => exact hNever token hEnds
  | unheard _ hNever => exact hNever token hEnds
  | left hFind hOnly hMembers =>
      cases (hOnly token).1 hEnds
      cases h.symm.trans hFind
      rw [hMembers] at hLeft
      cases List.inj_on_of_nodup_map addressable.tokens_nodup (List.mem_of_mem_eraseP hLeft) hMem
        (hSame.trans hToken.symm)
      have hPid : record.pid ∈ (p.erase record.pid).pids := List.mem_map_of_mem hLeft
      rw [ProcessTable.pids_erase] at hPid
      exact addressable.pids_nodup.not_mem_erase hPid
  | closed _ hMembers =>
      rw [hMembers] at hLeft
      cases hLeft

/-- A token that is spent is never given out again. -/
theorem Moves.spent (moves : Moves step p t p' t' calls) (spent : Spent p t token) : Spent p' t' token := by
  obtain ⟨hLe, hNone⟩ := spent
  rw [ProcessTable.findByToken?_eq_none_iff] at hNone
  refine ⟨moves.token_le hLe, ProcessTable.findByToken?_eq_none_iff.2 fun r hMem hSame => ?_⟩
  cases moves with
  | kept _ hMembers => exact hNone r (hMembers ▸ hMem) hSame
  | joined _ _ _ hToken hFresh hMembers =>
      rw [hMembers] at hMem
      rcases List.mem_append.1 hMem with hOld | hLast
      · exact hNone r hOld hSame
      · cases List.mem_singleton.1 hLast
        cases hToken.symm.trans hSame
        omega
  | unheard _ _ _ hMembers => exact hNone r (hMembers ▸ hMem) hSame
  | left _ _ hMembers =>
      rw [hMembers] at hMem
      exact hNone r (List.mem_of_mem_eraseP hMem) hSame
  | closed _ hMembers =>
      rw [hMembers] at hMem
      cases hMem

/-! Any number of steps. -/

variable {server : Server} {steps : List Step}

/-- A server that has just started has nobody to address. -/
theorem Started.addressable (started : Started server) :
    Addressable server.session.processes.members server.transport := by
  obtain ⟨options, capacity, serverHandle, event, rfl⟩ := started.eq_fresh
  exact ⟨List.nodup_nil, List.nodup_nil, by simp [Session.fresh, ProcessTable.empty,
    ProcessTable.members, ProcessTable.setForeground], Nat.le_refl _⟩

/-- Over any run the records have distinct tokens, all of them issued. -/
theorem Run.addressable {first : Server} {turns : List Turn} (run : Run first turns server)
    (started : Started first) :
    Addressable server.session.processes.members server.transport :=
  run.invariant (fun server => Addressable server.session.processes.members server.transport) started.addressable
    fun server _ hStandard => (server.moves_turn hStandard.keepsMembers).addressable

/-- Records stay addressable along any steps. -/
theorem addressable_follow (addressable : Addressable server.session.processes.members server.transport)
    (hSteps : ∀ step ∈ steps, step.KeepsMembers) :
    Addressable (server.follow steps).session.processes.members (server.follow steps).transport := by
  induction steps generalizing server with
  | nil => exact addressable
  | cons step rest ih =>
      obtain ⟨hStep, hRest⟩ := List.forall_mem_cons.1 hSteps
      exact ih ((server.moves_turn hStep).addressable addressable) hRest

/-- A token that is spent stays spent. -/
theorem spent_follow (spent : Spent server.session.processes.members server.transport token)
    (hSteps : ∀ step ∈ steps, step.KeepsMembers) :
    Spent (server.follow steps).session.processes.members (server.follow steps).transport token := by
  induction steps generalizing server with
  | nil => exact spent
  | cons step rest ih =>
      obtain ⟨hStep, hRest⟩ := List.forall_mem_cons.1 hSteps
      exact ih ((server.moves_turn hStep).spent spent) hRest

/-- A token that addresses a member goes on doing so, or it is spent, by whether the connection is ended. -/
theorem addresses_follow (addressable : Addressable server.session.processes.members server.transport)
    (h : server.session.processes.members.findByToken? token = some record)
    (hSteps : ∀ step ∈ steps, step.KeepsMembers) :
    ((∀ step ∈ steps, ¬step.Ends token) →
        (server.follow steps).session.processes.members.findByToken? token = some record) ∧
      ((∃ step ∈ steps, step.Ends token) →
        Spent (server.follow steps).session.processes.members (server.follow steps).transport token) := by
  induction steps generalizing server with
  | nil => exact ⟨fun _ => h, fun ⟨_, hMem, _⟩ => by cases hMem⟩
  | cons step rest ih =>
      obtain ⟨hStep, hRest⟩ := List.forall_mem_cons.1 hSteps
      have moves := server.moves_turn hStep
      by_cases hEnds : step.Ends token
      · have ended := spent_follow (moves.spent_of_ends addressable h hEnds) hRest
        exact ⟨fun hNever => absurd hEnds (hNever step (List.mem_cons_self ..)), fun _ => ended⟩
      · obtain ⟨hStays, hSpent⟩ :=
          ih (moves.addressable addressable) (moves.addresses addressable h hEnds) hRest
        refine ⟨fun hNever => hStays fun later hMem => hNever later (List.mem_cons_of_mem step hMem), ?_⟩
        rintro ⟨later, hMem, hLater⟩
        rcases List.mem_cons.1 hMem with rfl | hMem
        · exact absurd hLater hEnds
        · exact hSpent ⟨later, hMem, hLater⟩

/-! What clients see of it. -/

/-- The tokens of a server address its members and nobody else, and only who is addressed is served. -/
structure Addressing (server : Server) : Prop where
  tokens_nodup : (server.session.processes.records.map ProcessRecord.token).Nodup
  token_range : ∀ p ∈ server.session.processes.records, ∃ token, p.token = some token ∧
    UInt32.size ≤ token ∧ (server.transport.published.length < UInt64.size / 2 → token < UInt64.size)
  addresses_iff : ∀ token p, server.session.processes.findByToken? token = some p ↔
    p ∈ server.session.processes.records ∧ p.token = some token
  pid_unaddressed : ∀ pid : UInt32, server.session.processes.findByToken? pid.toNat = none
  disconnect_unaddressed : ∀ env message, message.request = .disconnect →
    server.session.processes.findByToken? message.descriptor.processToken = none →
      let served := server.dispatch env message
      served.completion = .reply (message.reply .success) ∧ served.calls = [] ∧
        served.server.session = server.session ∧ served.server.shuttingDown = server.shuttingDown
  api_unaddressed : ∀ env message call, message.request = .api call →
    server.session.processes.findByToken? message.descriptor.processToken = none →
      let served := server.dispatch env message
      served.completion = .reply (message.reply .invalidHandle) ∧ served.calls = [] ∧
        served.server = server
  api_addressed : ∀ env message call p, message.request = .api call →
    server.session.processes.findByToken? message.descriptor.processToken = some p →
      .api message ∈ (server.dispatch env message).calls

/-- A token reaches the record that has it and no other. -/
theorem Addressing.of_addressable
    (addressable : Addressable server.session.processes.members server.transport) : Addressing server := by
  have hNodup : (server.session.processes.records.map ProcessRecord.token).Nodup := by
    rw [← ProcessTable.map_token_members]
    exact addressable.tokens_nodup
  have hRange : ∀ p ∈ server.session.processes.records, ∃ n,
      p.token = some (Loopback.processTokenBase + n) ∧ 0 < n ∧ n ≤ server.transport.processTokens :=
    fun p hMem => addressable.token_eq { p with foreground := false } (List.mem_map_of_mem hMem)
  refine ⟨hNodup, fun p hMem => ?_, fun token p => ProcessTable.findByToken?_eq_some_iff hNodup,
    fun pid => ?_, fun env message hRequest hNone => ?_, fun env message call hRequest hNone => ?_,
    fun env message call p hRequest hFind => ?_⟩
  · obtain ⟨n, hToken, _, hLe⟩ := hRange p hMem
    have hPublished := addressable.published_ge
    refine ⟨_, hToken, ?_, fun hFew => ?_⟩
    · simp only [Loopback.processTokenBase, UInt32.size]
      omega
    · simp only [Loopback.processTokenBase, UInt64.size] at hFew ⊢
      omega
  · refine ProcessTable.findByToken?_eq_none_iff.2 fun p hMem hSame => ?_
    obtain ⟨n, hToken, _, _⟩ := hRange p hMem
    have hEq := Option.some.inj (hToken.symm.trans hSame)
    have hLt := pid.toNat_lt
    simp only [Loopback.processTokenBase] at hEq
    omega
  · simp [dispatch, hRequest, disconnect, hNone]
  · simp [dispatch, hRequest, api, hNone]
  · simp only [dispatch, hRequest, api, hFind]
    exact List.mem_singleton_self _

/-- A token that was given out in a step has addressed its process since then if the process was told of it and
nothing has ended the connection, and addresses nobody otherwise. -/
def Lasts (pid : UInt32) (token : Nat) (turn : Turn) (later : List Step) (server : Server) : Prop :=
  ∃ env message tokens delivered, turn.step = .dispatch env message ∧ tokens.process = token ∧
    Call.sent turn.calls = [(connectedReply message tokens, delivered)] ∧
    (delivered = true → (∀ step ∈ later, ¬step.Ends token) → ∃ record on,
      turn.server.session.processes.findByToken? token = some record ∧ record.pid = pid ∧
        server.session.processes.findByToken? token = some { record with foreground := on }) ∧
    (delivered = false ∨ (∃ step ∈ later, step.Ends token) →
      server.session.processes.findByToken? token = none)

/-- A token addresses its process from its publication until its connection ends. -/
theorem lasts_follow {pid : UInt32}
    (addressable : Addressable server.session.processes.members server.transport)
    (hStep : step.KeepsMembers) (hSteps : ∀ step ∈ steps, step.KeepsMembers)
    (hPublished : .publish (.process pid) token ∈ (server.turn step).calls) :
    Lasts pid token (server.turn step) steps ((server.turn step).server.follow steps) := by
  have moves := server.moves_turn hStep
  have after := moves.addressable addressable
  have hAdmitted := Call.mem_admitted.2 hPublished
  cases moves with
  | kept _ _ _ hCalls =>
      rw [hCalls] at hAdmitted
      cases hAdmitted
  | @joined env message record tokens hDispatch _ _ hToken _ hMembers _ hCalls hReply =>
      rw [hCalls] at hAdmitted
      cases List.mem_singleton.1 hAdmitted
      have hFind : (server.turn step).server.session.processes.members.findByToken? tokens.process =
          some record := by
        rw [ProcessTable.findByToken?_eq_some_iff after.tokens_nodup, hMembers]
        exact ⟨List.mem_append_right _ (List.mem_singleton_self _), hToken⟩
      obtain ⟨hStays, hSpent⟩ := addresses_follow after hFind hSteps
      refine ⟨env, message, tokens, true, (server.step_turn step).trans hDispatch, rfl, hReply,
        fun _ hNever => ?_, fun hEnds => ?_⟩
      · obtain ⟨first, hFirst⟩ := ProcessTable.findByToken?_of_members hFind
        obtain ⟨last, hLast⟩ := ProcessTable.findByToken?_of_members (hStays hNever)
        exact ⟨_, last, hFirst, rfl, hLast⟩
      · rcases hEnds with hLost | hEnded
        · cases hLost
        · exact ProcessTable.findByToken?_eq_none_of_members (hSpent hEnded).find_eq_none
  | @unheard env message _ tokens hDispatch _ hFresh hMembers grows hCalls hReply =>
      rw [hCalls] at hAdmitted
      cases List.mem_singleton.1 hAdmitted
      have spent : Spent (server.turn step).server.session.processes.members
          (server.turn step).server.transport tokens.process := by
        refine ⟨?_, ProcessTable.findByToken?_eq_none_iff.2 fun r hMem hSame => ?_⟩
        · rw [grows.processTokens_eq, hFresh]
          omega
        · have hLe := addressable.token_le (hMembers ▸ hMem) hSame
          omega
      refine ⟨env, message, tokens, false, (server.step_turn step).trans hDispatch, rfl, hReply,
        fun hTold => absurd hTold Bool.false_ne_true, fun _ => ?_⟩
      exact ProcessTable.findByToken?_eq_none_of_members (spent_follow spent hSteps).find_eq_none
  | left _ _ _ _ hCalls =>
      rw [hCalls] at hAdmitted
      cases hAdmitted
  | closed _ _ _ hCalls =>
      rw [hCalls] at hAdmitted
      cases hAdmitted

/-- Along every run the tokens of processes are distinct, lie above all process identifiers and address exactly
the records that have them. A token that was given out for a connection addresses the record of that connection
until it ends, and never any record again. -/
theorem tokens_address_one_connection {first : Server} (started : Started first)
    (hSteps : ∀ step ∈ steps, step.KeepsMembers) :
    Addressing (first.follow steps) ∧
      ∀ before step later pid token, steps = before ++ step :: later →
        .publish (.process pid) token ∈ ((first.follow before).turn step).calls →
          Lasts pid token ((first.follow before).turn step) later (first.follow steps) := by
  refine ⟨.of_addressable (addressable_follow started.addressable hSteps),
    fun before step later pid token hEq hPublished => ?_⟩
  subst hEq
  obtain ⟨hBefore, hRest⟩ := List.forall_mem_append.1 hSteps
  obtain ⟨hStep, hLater⟩ := List.forall_mem_cons.1 hRest
  rw [follow_append]
  exact lasts_follow (addressable_follow started.addressable hBefore) hStep hLater hPublished

/-- A process connects, disconnects and connects twice more, the first of these times unheard. -/
def returning : List Step :=
  [.dispatch quiet (connecting 7), .dispatch quiet ⟨⟨3, 0x100000001, 0, 0, 0, 0⟩, .disconnect⟩, .failNext 1,
    .dispatch quiet (connecting 7), .dispatch quiet (connecting 7)]

theorem tokens_address_one_connection_returning :
    (begun.follow returning).session.processes.findByToken? 0x100000001 = none ∧
      (begun.follow returning).session.processes.findByToken? 0x100000002 = none ∧
      (begun.follow returning).session.processes.findByToken? 7 = none ∧
      ∃ p, (begun.follow returning).session.processes.findByToken? 0x100000003 = some p ∧ p.pid = 7 := by
  have hQuiet := (Environment.standard_bare StandIn.fresh.system).keepsMembers
  have hSteps : ∀ step ∈ returning, step.KeepsMembers := by
    simp [returning, Step.KeepsMembers, quiet, hQuiet]
  obtain ⟨addressing, lasts⟩ := tokens_address_one_connection started_begun hSteps
  refine ⟨?_, ?_, addressing.pid_unaddressed 7, ?_⟩
  · obtain ⟨_, _, _, _, _, _, _, _, hGone⟩ := lasts [] (.dispatch quiet (connecting 7)) _ 7 0x100000001 rfl
      (by decide)
    exact hGone (.inr ⟨_, List.mem_cons_self .., rfl, rfl⟩)
  · obtain ⟨_, _, _, delivered, _, _, hReply, _, hGone⟩ :=
      lasts (returning.take 3) (.dispatch quiet (connecting 7)) _ 7 0x100000002 rfl (by decide)
    have hLost : (Call.sent ((begun.follow (returning.take 3)).turn (.dispatch quiet (connecting 7))).calls).map
        Prod.snd = [false] := by decide
    rw [hReply] at hLost
    exact hGone (.inl (List.singleton_inj.1 hLost))
  · obtain ⟨_, _, _, delivered, _, _, hReply, hStays, _⟩ :=
      lasts (returning.take 4) (.dispatch quiet (connecting 7)) [] 7 0x100000003 rfl (by decide)
    have hHeard : (Call.sent ((begun.follow (returning.take 4)).turn (.dispatch quiet (connecting 7))).calls).map
        Prod.snd = [true] := by decide
    rw [hReply] at hHeard
    obtain ⟨_, _, _, hPid, hFind⟩ := hStays (List.singleton_inj.1 hHeard) (by simp)
    exact ⟨_, hFind, hPid⟩

end Server

end ConsoleHost
