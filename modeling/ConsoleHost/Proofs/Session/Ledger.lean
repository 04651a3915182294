import ConsoleHost.Proofs.Registry.Closings
import ConsoleHost.Proofs.Session.Aborted
import ConsoleHost.Proofs.Session.Open

/-! The tokens that clients hold, as an account of what they were told: what is delivered is entered, and
what is closed or leaves is struck off. The live handles of a session and the tokens in its records are
such an account, and every change of the session is an entry in it. -/

namespace ConsoleHost

def ConnectionTokens.handles (c : ConnectionTokens) : List Nat := [c.input, c.output]

/-- What a step of a server means to clients. -/
inductive News where
  | nothing
  | created (token : Nat)
  | connected (tokens : ConnectionTokens)
  | closed (token : Nat)
  /-- The process with this token disconnects, if there is one. -/
  | disconnected (process : Nat)
  | shutDown
  deriving DecidableEq

def News.granted : News → List Nat
  | created token => [token]
  | connected tokens => tokens.handles
  | _ => []

def News.closed? : News → Option Nat
  | closed token => some token
  | _ => none

theorem News.eq_closed {news : News} {token : Nat} (h : news.closed? = some token) :
    news = .closed token := by
  cases news with
  | closed => exact congrArg closed (Option.some.inj h)
  | nothing => cases h
  | created => cases h
  | connected => cases h
  | disconnected => cases h
  | shutDown => cases h

/-- The tokens of handles and of connections that clients hold, oldest first. -/
structure Ledger where
  tokens : List Nat
  connections : List ConnectionTokens
  deriving DecidableEq

namespace Ledger

def empty : Ledger := ⟨[], []⟩

def without (l : Ledger) (tokens : List Nat) : List Nat := l.tokens.filter fun t => t ∉ tokens

def after (l : Ledger) : News → Ledger
  | .nothing => l
  | .created token => { l with tokens := l.tokens ++ [token] }
  | .connected tokens => ⟨l.tokens ++ tokens.handles, l.connections ++ [tokens]⟩
  | .closed token => ⟨l.without [token], l.connections⟩
  | .disconnected process =>
    match l.connections.find? fun c => c.process = process with
    | none => l
    | some c => ⟨l.without c.handles, l.connections.eraseP fun c => c.process = process⟩
  | .shutDown => ⟨l.without (l.connections.flatMap ConnectionTokens.handles), []⟩

theorem mem_without {l : Ledger} {tokens : List Nat} {token : Nat} (h : token ∈ l.without tokens) :
    token ∈ l.tokens ∧ token ∉ tokens := by
  simpa [without] using h

/-- No token comes in that is not granted. -/
theorem mem_tokens_of_mem_after {l : Ledger} {news : News} {token : Nat}
    (h : token ∈ (l.after news).tokens) : token ∈ l.tokens ∨ token ∈ news.granted := by
  cases news with
  | nothing => exact .inl h
  | created => exact List.mem_append.1 h
  | connected => exact List.mem_append.1 h
  | closed => exact .inl (mem_without h).1
  | disconnected process =>
      rw [after] at h
      split at h
      · exact .inl h
      · exact .inl (mem_without h).1
  | shutDown => exact .inl (mem_without h).1

/-- A connection that nobody holds takes nothing out of the ledger when it ends. -/
theorem after_disconnected_of_none {l : Ledger} {process : Nat}
    (h : ∀ c ∈ l.connections, c.process ≠ process) : l.after (.disconnected process) = l := by
  have hNone : l.connections.find? (fun c => c.process = process) = none := by simpa using h
  rw [after, hNone]

/-- The end of a connection takes out the connection and its own handles. -/
theorem after_disconnected {l : Ledger} {before rest : List ConnectionTokens} {c : ConnectionTokens}
    {process : Nat} (hConnections : l.connections = before ++ c :: rest) (hProcess : c.process = process)
    (hBefore : ∀ d ∈ before, d.process ≠ process) :
    l.after (.disconnected process) = ⟨l.without c.handles, before ++ rest⟩ := by
  have hNone : before.find? (fun d => d.process = process) = none := by simpa using hBefore
  have hErase : (before ++ c :: rest).eraseP (fun d => d.process = process) = before ++ rest := by
    rw [List.eraseP_append_right _ (by simpa using hBefore), List.eraseP_cons_of_pos (by simpa)]
  simp [after, hConnections, hNone, hErase, hProcess]

end Ledger

/-- The tokens in a record that is complete. -/
def ProcessRecord.tokens (p : ProcessRecord) : ConnectionTokens where
  process := p.token.getD 0
  input := p.input.elim 0 HandleId.number
  output := p.output.elim 0 HandleId.number

namespace Session

def ledger (s : Session) : Ledger where
  tokens := s.registry.handles.keys.map HandleId.number
  connections := s.processes.records.map ProcessRecord.tokens

/-- A session changes as its account says, and handles that are new to clients are new to the session. -/
structure Accounts (s : Session) (news : News) (s' : Session) : Prop where
  ledger_eq : s'.ledger = s.ledger.after news
  lastHandle_le : s.registry.lastHandle ≤ s'.registry.lastHandle
  granted_new : ∀ token ∈ news.granted, s.registry.lastHandle < token
  closed_mem : ∀ token, news.closed? = some token → token ∈ s.ledger.tokens

variable {s s' s'' : Session}

theorem number_mem_ledger {id : HandleId} : id.number ∈ s.ledger.tokens ↔ id ∈ s.registry.handles.keys := by
  simp only [ledger, List.mem_map]
  constructor
  · rintro ⟨other, hMem, hNumber⟩
    cases id
    cases other
    cases hNumber
    exact hMem
  · exact fun hMem => ⟨id, hMem, rfl⟩

/-- Tokens of handles come from the counter of handles, so none exceeds it. -/
theorem Consistent.token_le (consistent : s.Consistent) {token : Nat} (h : token ∈ s.ledger.tokens) :
    token ≤ s.registry.lastHandle := by
  obtain ⟨id, hMem, rfl⟩ := List.mem_map.1 h
  exact consistent.sound.handle_le id hMem

theorem tokens_setForeground (t : ProcessTable) (on : Bool) :
    (t.setForeground on).records.map ProcessRecord.tokens = t.records.map ProcessRecord.tokens := by
  simp [ProcessTable.setForeground, ProcessRecord.tokens]

/-- The ledger depends on the open handles and on the tokens of the records, not on foreground rights. -/
theorem ledger_congr (hHandles : s'.registry.handles = s.registry.handles)
    (hRecords : s'.processes.setForeground false = s.processes.setForeground false) :
    s'.ledger = s.ledger := by
  rw [ledger, ledger, hHandles, ← tokens_setForeground _ false, hRecords, tokens_setForeground]

theorem Spares.ledger_eq (spares : s.Spares s') : s'.ledger = s.ledger :=
  ledger_congr spares.handles_eq spares.records_eq

theorem accounts_nothing (hLedger : s'.ledger = s.ledger)
    (hLast : s.registry.lastHandle ≤ s'.registry.lastHandle) : s.Accounts .nothing s' :=
  ⟨hLedger, hLast, by simp [News.granted], by simp [News.closed?]⟩

/-- Changes that the ledger does not see may come before one that it does. -/
theorem Accounts.of_nothing {news : News} (first : s.Accounts .nothing s')
    (second : s'.Accounts news s'') : s.Accounts news s'' where
  ledger_eq := second.ledger_eq.trans (congrArg (·.after news) first.ledger_eq)
  lastHandle_le := Nat.le_trans first.lastHandle_le second.lastHandle_le
  granted_new token hMem := Nat.lt_of_le_of_lt first.lastHandle_le (second.granted_new token hMem)
  closed_mem token h := by
    have hMem := second.closed_mem token h
    rwa [first.ledger_eq] at hMem

/-! Handles that are opened and closed. -/

/-- Closing handles strikes their tokens off. -/
theorem tokens_of_keys {tokens : List Nat} (hKeys : s'.registry.handles.keys =
    s.registry.handles.keys.filter fun id => id ∉ tokens.map HandleId.mk) :
    s'.ledger.tokens = s.ledger.without tokens := by
  simp only [ledger, Ledger.without, hKeys, List.filter_map]
  refine congrArg _ (List.filter_congr fun id _ => ?_)
  have hToken : id ∈ tokens.map HandleId.mk ↔ id.number ∈ tokens := by
    cases id
    simp
  simp [hToken]

theorem keys_openHandle {r r' : Registry} {id : ObjectId} {access : AccessMask} {share : ShareMode}
    {handle : HandleId} (h : r.openHandle id access share = (.ok handle, r')) :
    r'.handles.keys = r.handles.keys ++ [r.nextHandle] := by
  obtain ⟨x, _, hHandles⟩ := Registry.handles_openHandle h
  rw [hHandles, Table.keys_insert]

/-- Closing an open handle takes its token out, and only that. -/
theorem accounts_discardHandle {handle : HandleId} (h : handle ∈ s.registry.handles.keys) :
    s.Accounts (.closed handle.number) { s with registry := s.registry.discardHandle handle } := by
  refine ⟨?_, Nat.le_of_eq (Registry.lastHandle_discardHandle).symm, by simp [News.granted], ?_⟩
  · refine congrArg (Ledger.mk · s.ledger.connections) (tokens_of_keys ?_)
    simp [Table.keys_erase]
  · rintro _ ⟨⟩
    exact number_mem_ledger.2 h

/-- Opening an object adds one handle, the next that the counter gives. -/
theorem Opens.keys_eq {request : CreateRequest} {handle : HandleId}
    (opens : s.Opens request handle s') :
    handle = s.registry.nextHandle ∧ s'.registry.handles.keys = s.registry.handles.keys ++ [handle] ∧
      s'.registry.lastHandle = s.registry.lastHandle + 1 ∧ s'.processes = s.processes := by
  cases opens with
  | endpoint _ _ hOpen => exact ⟨rfl, keys_openHandle hOpen, Registry.lastHandle_openHandle hOpen, rfl⟩
  | newOutput _ _ hOpen =>
      have hKeys := keys_openHandle hOpen
      have hLast := Registry.lastHandle_openHandle hOpen
      exact ⟨rfl, hKeys, hLast, rfl⟩

theorem Opens.accounts {request : CreateRequest} {handle : HandleId}
    (opens : s.Opens request handle s') : s.Accounts (.created handle.number) s' := by
  obtain ⟨rfl, hKeys, hLast, hProcesses⟩ := opens.keys_eq
  refine ⟨?_, by omega, by simp [News.granted, Registry.nextHandle], by simp [News.closed?]⟩
  simp [ledger, Ledger.after, hKeys, hProcesses]

/-- A handle that is closed again before anyone knows of it is no news. -/
theorem Opens.accounts_discarded {request : CreateRequest} {handle : HandleId}
    (opens : s.Opens request handle s') (sound : s.registry.Sound) :
    s.Accounts .nothing { s' with registry := s'.registry.discardHandle handle } := by
  obtain ⟨rfl, hKeys, hLast, hProcesses⟩ := opens.keys_eq
  refine accounts_nothing ?_ (by simp [hLast])
  have hRest : s.registry.handles.keys.filter (· ≠ s.registry.nextHandle) = s.registry.handles.keys :=
    List.filter_eq_self.2 fun id hMem => by
      rw [decide_eq_true_eq]
      rintro rfl
      exact sound.nextHandle_not_mem hMem
  simp only [ledger, Registry.handles_discardHandle, Table.keys_erase, hKeys, List.filter_append, hRest,
    hProcesses]
  simp

/-! Processes that leave. -/

theorem primaryHandles_of_complete {p : ProcessRecord} (hInput : p.input.isSome)
    (hOutput : p.output.isSome) : p.primaryHandles = p.tokens.handles.map HandleId.mk := by
  obtain ⟨input, hInput⟩ := Option.isSome_iff_exists.1 hInput
  obtain ⟨output, hOutput⟩ := Option.isSome_iff_exists.1 hOutput
  simp [ProcessRecord.primaryHandles, ProcessRecord.tokens, ConnectionTokens.handles, hInput, hOutput]

/-- Undoing a connection takes the handles of its record out of the ledger. -/
theorem Consistent.tokens_rollback (consistent : s.Consistent) {record : ProcessRecord}
    (hFind : s.processes.find? record.pid = some record) :
    (s.rollback record.pid).ledger.tokens = s.ledger.without record.tokens.handles := by
  obtain ⟨-, hInput, hOutput⟩ := consistent.complete record (List.mem_of_find?_eq_some hFind)
  refine tokens_of_keys ?_
  rw [rollback_of_find? hFind, Registry.keys_foldl_discardHandle, primaryHandles_of_complete hInput hOutput]

theorem lastHandle_rollback (s : Session) (pid : UInt32) :
    (s.rollback pid).registry.lastHandle = s.registry.lastHandle := by
  cases hFind : s.processes.find? pid with
  | none =>
      rw [rollback_of_not_mem (ProcessTable.find?_eq_none_iff.1 hFind)]
      rfl
  | some record => rw [rollback_of_find? hFind, Registry.lastHandle_foldl_discardHandle]

/-- A record that a token addresses, among the records before and behind it. -/
theorem Consistent.split_of_findByToken? (consistent : s.Consistent) {token : Nat}
    {record : ProcessRecord} (h : s.processes.findByToken? token = some record) :
    ∃ before rest, s.processes.records = before ++ record :: rest ∧
      (∀ p ∈ before, p.pid ≠ record.pid) ∧ ∀ p ∈ before, p.tokens.process ≠ token := by
  obtain ⟨-, before, rest, hRecords, hBefore⟩ := List.find?_eq_some_iff_append.1 h
  refine ⟨before, rest, hRecords, fun p hMem => ?_, fun p hMem => ?_⟩
  · have hNodup := consistent.pids_nodup
    rw [ProcessTable.pids, hRecords, List.map_append, List.map_cons, List.nodup_append] at hNodup
    exact hNodup.2.2 _ (List.mem_map_of_mem hMem) _ (List.mem_cons_self ..)
  · obtain ⟨hToken, -⟩ := consistent.complete p (hRecords ▸ List.mem_append_left _ hMem)
    obtain ⟨other, hOther⟩ := Option.isSome_iff_exists.1 hToken
    simpa [ProcessRecord.tokens, hOther] using hBefore p hMem

/-- The process that a token addresses is gone with its connection. -/
theorem Consistent.accounts_rollback (consistent : s.Consistent) {token : Nat} {record : ProcessRecord}
    (h : s.processes.findByToken? token = some record) :
    s.Accounts (.disconnected token) (s.rollback record.pid) := by
  obtain ⟨before, rest, hRecords, hPids, hTokens⟩ := consistent.split_of_findByToken? h
  have hFind := ProcessTable.find?_of_split hRecords hPids
  have hLeft : (s.rollback record.pid).processes.records = before ++ rest := by
    rw [rollback_of_find? hFind]
    exact ProcessTable.records_erase_of_split hRecords hPids
  have hProcess : record.tokens.process = token := by
    have hToken := List.find?_some h
    simp_all [ProcessRecord.tokens]
  have hBefore : ∀ c ∈ before.map ProcessRecord.tokens, c.process ≠ token :=
    List.forall_mem_map.2 hTokens
  have hConnections : s.ledger.connections =
      before.map ProcessRecord.tokens ++ record.tokens :: rest.map ProcessRecord.tokens := by
    rw [ledger, hRecords, List.map_append, List.map_cons]
  refine ⟨?_, Nat.le_of_eq (lastHandle_rollback ..).symm, by simp [News.granted],
    by simp [News.closed?]⟩
  rw [Ledger.after_disconnected hConnections hProcess hBefore, ← consistent.tokens_rollback hFind,
    ← List.map_append, ← hLeft]
  rfl

/-- A disconnect under a token that addresses nobody changes nothing. -/
theorem Consistent.accounts_of_unaddressed (consistent : s.Consistent) {token : Nat}
    (h : s.processes.findByToken? token = none) : s.Accounts (.disconnected token) s := by
  have hOthers : ∀ c ∈ s.ledger.connections, c.process ≠ token := by
    refine List.forall_mem_map.2 fun p hMem => ?_
    obtain ⟨hToken, -⟩ := consistent.complete p hMem
    obtain ⟨other, hOther⟩ := Option.isSome_iff_exists.1 hToken
    have hNe := List.find?_eq_none.1 h p hMem
    simpa [ProcessRecord.tokens, hOther] using hNe
  refine ⟨?_, Nat.le_refl _, by simp [News.granted], by simp [News.closed?]⟩
  rw [Ledger.after_disconnected_of_none hOthers]

/-! The release of the whole session. -/

/-- Undoing every connection takes the handles of all of them out. -/
theorem Consistent.tokens_foldl_rollback (consistent : s.Consistent) {records : List ProcessRecord}
    (h : s.processes.records = records) :
    ((records.map ProcessRecord.pid).foldl Session.rollback s).ledger.tokens =
      s.ledger.without ((records.map ProcessRecord.tokens).flatMap ConnectionTokens.handles) := by
  induction records generalizing s with
  | nil => simp [Ledger.without]
  | cons record rest ih =>
      have hFind : s.processes.find? record.pid = some record := by simp [ProcessTable.find?, h]
      have hLeft : (s.rollback record.pid).processes.records = rest := by
        simp [rollback_of_find? hFind, ProcessTable.erase, h]
      rw [List.map_cons, List.foldl_cons, ih (consistent.rollback record.pid) hLeft, Ledger.without,
        consistent.tokens_rollback hFind]
      simp only [Ledger.without, List.map_cons, List.flatMap_cons, List.filter_filter]
      refine List.filter_congr fun token _ => ?_
      simp [Bool.and_comm]

theorem lastHandle_foldl_rollback (pids : List UInt32) (s : Session) :
    (pids.foldl rollback s).registry.lastHandle = s.registry.lastHandle := by
  induction pids generalizing s with
  | nil => rfl
  | cons pid rest ih => rw [List.foldl_cons, ih, lastHandle_rollback]

theorem handles_unpin? (r : Registry) (id : Option ObjectId) : (unpin? r id).handles = r.handles := by
  cases id with
  | none => rfl
  | some id => exact Registry.handles_unpin

theorem lastHandle_unpin? (r : Registry) (id : Option ObjectId) :
    (unpin? r id).lastHandle = r.lastHandle := by
  cases id with
  | none => rfl
  | some id => exact Registry.lastHandle_unpin

/-- Shutdown ends every connection and closes the handles of all of them. -/
theorem Consistent.accounts_teardown (consistent : s.Consistent) : s.Accounts .shutDown s.teardown := by
  have hTokens := consistent.tokens_foldl_rollback rfl
  have hRecords : (s.processes.pids.foldl Session.rollback s).processes.records = [] := records_foldl_rollback rfl
  have hLast := lastHandle_foldl_rollback s.processes.pids s
  refine ⟨?_, ?_, by simp [News.granted], by simp [News.closed?]⟩
  · rw [Ledger.after, ledger, Session.teardown, handles_unpin?, handles_unpin?, hRecords]
    exact congrArg (Ledger.mk · []) hTokens
  · rw [Session.teardown, lastHandle_unpin?, lastHandle_unpin?]
    exact Nat.le_of_eq hLast.symm

/-! Processes that get through, and those that do not. -/

/-- An admission that is undone leaves the ledger as it was. -/
theorem Consistent.accounts_undone (consistent : s.Consistent) {info : ConnectInfo}
    (hNew : info.pid ∉ s.processes.pids) {registry : Registry} {handles : Nat}
    (restores : s.registry.Restores registry handles) : s.Accounts .nothing (s.undone info registry) :=
  have spares := consistent.spares_undone hNew restores
  accounts_nothing spares.ledger_eq spares.lastHandle_le

/-- The two handles and the record of an admission enter the ledger together. -/
theorem accounts_withProcess {info : ConnectInfo} {record : ProcessRecord} {input output : ObjectId}
    {one two : Registry} {tokens : ConnectionTokens}
    (hOne : s.registry.openHandle input .readWrite .all = (.ok s.registry.nextHandle, one))
    (hTwo : one.openHandle output .readWrite .all = (.ok one.nextHandle, two)) (hTokens : record.tokens = tokens)
    (hHandles : tokens.handles = [s.registry.nextHandle.number, one.nextHandle.number]) :
    s.Accounts (.connected tokens) (s.withProcess info record two) := by
  have hFirst := Registry.lastHandle_openHandle hOne
  have hLast := Registry.lastHandle_openHandle hTwo
  refine ⟨?_, ?_, ?_, by simp [News.closed?]⟩
  · have hKeys : two.handles.keys = _ := (keys_openHandle hTwo).trans (congrArg (· ++ _) (keys_openHandle hOne))
    simp [ledger, withProcess, ProcessTable.enter, Ledger.after, hKeys, hHandles, tokens_setForeground,
      hTokens]
  · simp only [withProcess]
    omega
  · rw [News.granted, hHandles]
    simp only [Registry.nextHandle, List.forall_mem_cons]
    exact ⟨by omega, by omega, by simp⟩

end Session

open Session Call

/-- Bring-up opens no handle, so the ledger does not see it. -/
theorem BringUp.Ends.accounts {env : Environment} {defaults : SessionDefaults} {headless : Bool}
    {issued : Nat} {s : Session} {info : ConnectInfo} {o : Outcome}
    (ends : Ends env defaults headless issued s info o) : s.Accounts .nothing o.session := by
  cases ends with
  | already => exact accounts_nothing rfl (Nat.le_refl _)
  | noEvent => exact accounts_nothing rfl (Nat.le_refl _)
  | noWindow => exact accounts_nothing rfl (Nat.le_refl _)
  | raised => exact accounts_nothing rfl (Nat.le_refl _)

namespace Attach

variable {env : Environment} {defaults : SessionDefaults} {headless : Bool} {issued : Nat} {s : Session}
  {t : Loopback} {info : ConnectInfo} {o : Outcome}

/-- An attach that fails leaves the ledger as it was, however far it came. -/
theorem Ends.accounts_of_error {refusal : Refusal} (ends : Ends env defaults headless issued s t info o)
    (consistent : s.Consistent) (h : o.result = .error refusal) : s.Accounts .nothing o.session := by
  cases ends with
  | known => exact accounts_nothing rfl (Nat.le_refl _)
  | notUp _ hUp => exact (BringUp.ends_of_run consistent.sound hUp).accounts
  | inputRefused hNew => exact consistent.accounts_undone hNew consistent.sound.restores
  | outputRefused hNew _ _ _ _ _ restores => exact consistent.accounts_undone hNew restores
  | attached => cases h

/-- An attach that succeeds enters one connection with its tokens. -/
theorem Ends.accounts_of_ok {tokens : ConnectionTokens}
    (ends : Ends env defaults headless issued s t info o) (consistent : s.Consistent)
    (h : o.result = .ok tokens) : s.Accounts (.connected tokens) o.session := by
  cases ends with
  | known => cases h
  | notUp => cases h
  | inputRefused => cases h
  | outputRefused => cases h
  | attached _ hUp _ _ hOne hTwo hPublished =>
      subst hPublished
      cases h
      exact (BringUp.ends_of_run consistent.sound hUp).accounts.of_nothing
        (accounts_withProcess hOne hTwo rfl rfl)

/-- If the reply is lost, undoing the connection restores the ledger. -/
theorem Ends.accounts_undelivered {tokens : ConnectionTokens}
    (ends : Ends env defaults headless issued s t info o) (consistent : s.Consistent)
    (h : o.result = .ok tokens) : s.Accounts .nothing (o.session.rollback info.pid) := by
  have hLast := (ends.accounts_of_ok consistent h).lastHandle_le
  rw [← lastHandle_rollback o.session info.pid] at hLast
  exact accounts_nothing (ends.undelivered consistent h).1.ledger_eq hLast

/-- No call of a failed attach reaches the client or publishes a token. -/
theorem Ends.reaching_of_error {refusal : Refusal}
    (ends : Ends env defaults headless issued s t info o) (consistent : s.Consistent)
    (h : o.result = .error refusal) : reaching o.calls = [] := by
  by_cases hNew : info.pid ∈ s.processes.pids
  · cases ends with
    | known => rfl
    | notUp hOther => exact absurd hNew hOther
    | inputRefused hOther => exact absurd hNew hOther
    | outputRefused hOther => exact absurd hNew hOther
    | attached hOther => exact absurd hNew hOther
  · exact (ends.aborted consistent hNew h).2.2.2

/-- A process that got through has been published with its two handles. -/
theorem Ends.reaching_of_ok {tokens : ConnectionTokens}
    (ends : Ends env defaults headless issued s t info o) (consistent : s.Consistent)
    (h : o.result = .ok tokens) :
    reaching o.calls = [.publish (.process info.pid) tokens.process,
      .publish (.handle ⟨tokens.input⟩) tokens.input,
      .publish (.handle ⟨tokens.output⟩) tokens.output] := by
  cases ends with
  | known => cases h
  | notUp => cases h
  | inputRefused => cases h
  | outputRefused => cases h
  | attached _ hUp _ _ _ _ hPublished =>
      have hCalls := (BringUp.ends_of_run consistent.sound hUp).reaching_calls
      subst hPublished
      cases h
      simp only [reaching_append, reaching_greeting, hCalls, reaching_rights, List.nil_append]
      rfl

end Attach

end ConsoleHost
