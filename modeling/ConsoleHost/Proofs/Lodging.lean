import ConsoleHost.Proofs.Registry.Every
import ConsoleHost.Proofs.Server.Answered
import ConsoleHost.Proofs.Server.Joins
import ConsoleHost.Proofs.Session.Targets

/-! A session with a single client, all of whose handles let others read and write. Nothing stands against opening one
handle more, and the numbers of its handles follow on each other. -/

namespace ConsoleHost

theorem IoHandle.sharesAll_of_share_eq {h : IoHandle} (hShare : h.share = .all) : h.SharesAll := by
  rw [SharesAll, hShare]
  exact ⟨by decide, by decide⟩

namespace Registry

variable {r r' : Registry}

/-- Every open handle lets others read and write. -/
def Lenient (r : Registry) : Prop := ∀ h ∈ r.handles.values, h.SharesAll

/-- Where every handle shares all, any access is admitted that shares all itself. -/
theorem Lenient.admits (lenient : r.Lenient) (id : ObjectId) (access : AccessMask) : r.Admits id access .all := by
  intro handle x hHandle _
  obtain ⟨hRead, hWrite⟩ := lenient x (Table.mem_values_of_get? hHandle)
  exact ⟨fun _ => hRead, fun _ => hWrite, fun _ => by decide, fun _ => by decide⟩

/-- A new handle that shares all changes nothing about that. -/
theorem Lenient.append (lenient : r.Lenient) {added : List (HandleId × IoHandle)}
    (hEntries : r'.handles.entries = r.handles.entries ++ added) (hAdded : ∀ e ∈ added, e.2.SharesAll) :
    r'.Lenient := by
  intro h hMem
  rw [Table.values, hEntries, List.map_append] at hMem
  rcases List.mem_append.1 hMem with hOld | hNew
  · exact lenient h hOld
  · obtain ⟨e, hEntry, rfl⟩ := List.mem_map.1 hNew
    exact hAdded e hEntry

theorem Lenient.discardHandle (lenient : r.Lenient) (handle : HandleId) : (r.discardHandle handle).Lenient := by
  intro h hMem
  rw [handles_discardHandle] at hMem
  exact lenient h (Table.mem_values_of_mem_erase hMem)

end Registry

namespace Session

/-- A session that lodges this client and nobody else, who holds these handles. So many handle numbers have been given
out. -/
structure Lodges (s : Session) (client : ConnectionTokens) (tokens : List Nat) (last : Nat) : Prop where
  consistent : s.Consistent
  ledger_eq : s.ledger = ⟨tokens, [client]⟩
  lenient : s.registry.Lenient
  lastHandle_eq : s.registry.lastHandle = last

variable {s : Session} {client : ConnectionTokens} {tokens : List Nat} {last : Nat} {request : CreateRequest}

/-- A lodger has no token that was not issued. -/
theorem Lodges.token_le (lodges : s.Lodges client tokens last) {token : Nat} (h : token ∈ tokens) : token ≤ last := by
  rw [← lodges.lastHandle_eq]
  apply lodges.consistent.token_le
  rwa [lodges.ledger_eq]

/-- The client has one record, which its token addresses. -/
theorem Lodges.record (lodges : s.Lodges client tokens last) :
    ∃ record, s.processes.records = [record] ∧ s.processes.findByToken? client.process = some record := by
  have hConnections : s.processes.records.map ProcessRecord.tokens = [client] :=
    congrArg Ledger.connections lodges.ledger_eq
  obtain ⟨record, hRecords, hTokens⟩ := List.map_eq_singleton_iff.1 hConnections
  obtain ⟨hToken, -⟩ := lodges.consistent.complete record (hRecords ▸ List.mem_singleton_self record)
  obtain ⟨token, hToken⟩ := Option.isSome_iff_exists.1 hToken
  have hProcess : token = client.process := by
    rw [← hTokens, ProcessRecord.tokens, hToken]
    rfl
  refine ⟨record, hRecords, ?_⟩
  simp [ProcessTable.findByToken?, hRecords, hToken, hProcess]

theorem Lodges.initialized (lodges : s.Lodges client tokens last) : s.initialized = true := by
  obtain ⟨record, hRecords, -⟩ := lodges.record
  exact lodges.consistent.initialized_of_mem (hRecords ▸ List.mem_singleton_self record)

/-- A request that shares everything and says what it is for gets the next handle. -/
theorem Lodges.openObject (lodges : s.Lodges client tokens last) (hLast : last < UInt32.size)
    (hShare : request.share = .all) (hFlags : request.bufferFlags = 1) (hClear : ¬request.Ambiguous) :
    ∃ opened, s.openObject request = (.ok ⟨last + 1⟩, opened) ∧
      opened.Lodges client (tokens ++ [last + 1]) (last + 1) := by
  have consistent := lodges.consistent
  have hFit : ¬s.Unfit request := by
    intro unfit
    cases unfit with
    | down hDown => cases lodges.initialized.symm.trans hDown
    | flags _ hOther => exact hOther hFlags
    | ambiguous hAmbiguous => exact hClear hAmbiguous
  have hAdmits (id : ObjectId) : s.registry.Admits id request.access request.share :=
    hShare ▸ lodges.lenient.admits id request.access
  have few : s.registry.Few := Nat.lt_of_le_of_lt (Nat.le_of_eq lodges.lastHandle_eq) hLast
  have outcome := consistent.outcome_openObject request
  obtain ⟨refusal, hOpen⟩ | ⟨opened, hOpen, opens⟩ := openObject_cases consistent.sound request
  · rw [hOpen] at outcome
    cases outcome with
    | unfit unfit => exact absurd unfit hFit
    | conflict _ hObject hRefused =>
        cases hRefused.symm.trans ((consistent.sound.permits_iff_admits few hObject).2 (hAdmits _))
  · rw [hOpen] at outcome
    obtain ⟨registry, hSame, continues⟩ := opens.continues consistent
    obtain ⟨-, -, hNext, -⟩ := opens.keys_eq
    obtain ⟨x, _, hProvided, hEntries, -⟩ := (outcome.grants consistent).provided
    have hNumber : s.registry.nextHandle = ⟨last + 1⟩ := by rw [Registry.nextHandle, lodges.lastHandle_eq]
    have hShared : x.share = .all := by
      cases hProvided with
      | endpoint => exact hShare
      | newOutput => exact hShare
    refine ⟨opened, hNumber ▸ hOpen, ?_, ?_, lodges.lenient.append hEntries ?_, ?_⟩
    · rw [hSame]
      exact consistent.with_registry continues
    · rw [opens.accounts.ledger_eq, lodges.ledger_eq, hNumber]
      rfl
    · simpa using IoHandle.sharesAll_of_share_eq hShared
    · rw [hNext, lodges.lastHandle_eq]

/-- An ambiguous request is refused and changes nothing. -/
theorem Lodges.openObject_of_ambiguous (lodges : s.Lodges client tokens last) (h : request.Ambiguous) :
    ∃ reason, s.openObject request = (.error (.invalidRequest reason), s) := by
  have consistent := lodges.consistent
  have outcome := consistent.outcome_openObject request
  generalize s.openObject request = result at outcome
  cases outcome with
  | @unfit reason => exact ⟨reason, rfl⟩
  | conflict targets => exact absurd (.ambiguous h) (consistent.not_unfit targets)
  | endpoint targets => exact absurd (.ambiguous h) (consistent.not_unfit targets)
  | newOutput hFit => exact absurd (.ambiguous h) hFit

/-- The client may close any of its handles. -/
theorem Lodges.closeHandle (lodges : s.Lodges client tokens last) {token : Nat} (h : token ∈ tokens) :
    ∃ x closed, s.registry.closeHandle ⟨token⟩ = (.ok x, closed) ∧
      { s with registry := closed }.Lodges client (tokens.filter fun t => t ∉ [token]) last := by
  have hMem : (⟨token⟩ : HandleId) ∈ s.registry.handles.keys := by
    rwa [← number_mem_ledger, lodges.ledger_eq]
  have consistent := lodges.consistent
  have accounts := accounts_discardHandle hMem
  obtain ⟨x, hHandle⟩ := Table.exists_get?_of_mem_keys hMem
  refine ⟨x, _, Registry.closeHandle_of_open hHandle, ?_, ?_, lodges.lenient.discardHandle ⟨token⟩, ?_⟩
  · exact consistent.with_registry (consistent.continues.discardHandle ⟨token⟩)
  · rw [accounts.ledger_eq, lodges.ledger_eq]
    rfl
  · rw [Registry.lastHandle_discardHandle, lodges.lastHandle_eq]

/-- With the client the last process leaves. -/
theorem Lodges.depart (lodges : s.Lodges client tokens last) :
    ∃ record, s.processes.findByToken? client.process = some record ∧ (s.depart record.pid).1 = .ok .lastLeft := by
  obtain ⟨record, hRecords, hFind⟩ := lodges.record
  have consistent := lodges.consistent
  have accounts := consistent.accounts_rollback hFind
  have hConnections : (s.rollback record.pid).ledger.connections = [] := by
    rw [accounts.ledger_eq, lodges.ledger_eq]
    simp [Ledger.after]
  have hNobody : (s.rollback record.pid).processes.records = [] := List.map_eq_nil_iff.1 hConnections
  exact ⟨record, hFind,
    (consistent.fst_depart_eq_lastLeft_iff (hRecords ▸ List.mem_singleton_self record)).2 hNobody⟩

end Session

namespace Attach

/-- The first process to join is lodged with its two handles. -/
theorem Ends.lodges {env : Environment} {defaults : SessionDefaults} {headless : Bool} {issued : Nat} {s : Session}
    {t : Loopback} {d : Descriptor} {m : ConnectMessage} {info : ConnectInfo} {o : Outcome}
    {tokens : ConnectionTokens} (ends : Ends env defaults headless issued s t info o) (consistent : s.Consistent)
    (hInfo : ConnectInfo.ofMessage d m = .ok info) (h : o.result = .ok tokens) (hNobody : s.ledger = .empty) :
    o.session.Lodges tokens tokens.handles (s.registry.lastHandle + 2) := by
  have joins := ends.joins_of_ok consistent hInfo h
  have consistent' := ends.consistent consistent
  have hLedger : o.session.ledger = ⟨tokens.handles, [tokens]⟩ := by
    rw [(ends.accounts_of_ok consistent h).ledger_eq, hNobody]
    rfl
  have lenient : s.registry.Lenient := by
    have hTokens : s.registry.handles.keys.map HandleId.number = [] := congrArg Ledger.tokens hNobody
    have hNone : s.registry.handles.entries = [] := by simpa [Table.keys] using hTokens
    simp [Registry.Lenient, Table.values, hNone]
  obtain ⟨_, _, _, _, -, -, -, hEntries, -⟩ := joins.handles
  refine ⟨consistent', hLedger, lenient.append hEntries ?_, ?_⟩
  · simp only [List.forall_mem_cons]
    exact ⟨IoHandle.sharesAll_of_share_eq rfl, IoHandle.sharesAll_of_share_eq rfl, List.forall_mem_nil _⟩
  · obtain ⟨-, hOutput⟩ := joins.new
    have hLe : tokens.output ≤ o.session.registry.lastHandle := by
      apply consistent'.token_le
      rw [hLedger]
      exact List.mem_cons_of_mem _ (List.mem_singleton_self _)
    have hBound := ends.lastHandle_le consistent
    omega

/-- An attach does not change whether replies are delivered. -/
theorem Ends.delivers_eq {env : Environment} {defaults : SessionDefaults} {headless : Bool} {issued : Nat} {s : Session}
    {t : Loopback} {info : ConnectInfo} {o : Outcome} (ends : Ends env defaults headless issued s t info o) :
    o.transport.delivers = t.delivers := by
  cases ends with
  | known => rfl
  | notUp => rfl
  | inputRefused => rfl
  | outputRefused => rfl
  | attached _ _ _ _ _ _ hPublished =>
      subst hPublished
      rfl

end Attach

theorem Loopback.delivers_complete {t : Loopback} (h : t.delivers = true) (reply : Reply) :
    (t.complete reply).delivers = true := by
  rw [complete, if_pos h]
  exact h

namespace Server

/-- A connect request has been answered, and its client is all that the server lodges. -/
structure TakesIn (server : Server) (message : Message) (request : ConnectMessage) (tokens : ConnectionTokens)
    (served : Served) : Prop extends Establishes server message request tokens served where
  completion_eq : served.completion = .completed
  lodges : served.server.session.Lodges tokens tokens.handles (server.session.registry.lastHandle + 2)
  completed_eq : served.server.transport.completed =
    server.transport.completed ++ [connectedReply message tokens]
  delivers : served.server.transport.delivers = true
  telemetry_eq : served.server.telemetry = server.telemetry

/-- A client whom nothing stands against is taken in by a server that has nobody else. -/
theorem Hosts.takesIn {env : Environment} {server : Server} {issued : Nat} {message : Message}
    {request : ConnectMessage} {info : ConnectInfo} {served : Served}
    (hosts : Hosts env server issued message info served) (hRequest : message.request = .connect request)
    (hInfo : ConnectInfo.ofMessage message.descriptor request = .ok info) (consistent : server.session.Consistent)
    (hNobody : server.session.ledger = .empty) (hDelivers : server.transport.delivers = true)
    (hAdmitted : Attach.refusal? env server.options.defaults server.options.launch.headless server.session
      server.session.permitsProcess info = none) :
    ∃ tokens, TakesIn server message request tokens served := by
  have answered : Answered server message { served with calls := [] ++ served.calls } := hosts.answered hRequest rfl
  have hCompleted : served.server.transport.completed = server.transport.completed ++ Call.delivered served.calls :=
    answered.completed_eq
  cases hosts with
  | refused hAttach =>
      have hStatus := (Attach.ends_of_run consistent hAttach).status?_eq consistent
      cases hStatus.trans hAdmitted
  | undelivered hAttach hLost =>
      have hSame : _ = server.transport.delivers := (Attach.ends_of_run consistent hAttach).delivers_eq
      cases hLost.symm.trans (hSame.trans hDelivers)
  | delivered hAttach hGoesOn =>
      have established := establishes_of_attached consistent hInfo hAttach
      have lodges := (Attach.ends_of_run consistent hAttach).lodges consistent hInfo rfl hNobody
      rw [established.delivered_eq] at hCompleted
      exact ⟨_, established, rfl, lodges, hCompleted, Loopback.delivers_complete hGoesOn _, rfl⟩

end Server

end ConsoleHost
