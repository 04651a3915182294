import ConsoleHost.Proofs.Server.Joins
import ConsoleHost.Proofs.Server.Targets
import ConsoleHost.Proofs.Session.Primaries

/-! In every state of a running server, what is open under the number of a primary handle is that primary handle. One
step of the server brings a process with two new numbers, or nobody new. -/

namespace ConsoleHost

namespace Session

variable {s s' : Session}

/-- A session tends to one with the same records, handles and endpoints. -/
theorem tends_of_eq (hProcesses : s'.processes = s.processes) (hHandles : s'.registry.handles = s.registry.handles)
    (hLast : s.registry.lastHandle ≤ s'.registry.lastHandle) (hInput : s'.input = s.input)
    (hOutput : s'.activeOutput = s.activeOutput) : s.Tends s' where
  records := hProcesses ▸ List.Sublist.refl _
  lastHandle_le := hLast
  handle?_of_given handle x _ hLive := by
    rwa [Registry.handle?, hHandles] at hLive
  endpoint_eq _ _ := endpoint_congr hInput hOutput

/-- A session tends to one that spares it. -/
theorem tends_of_spares (spares : s.Spares s') (hLast : s.registry.lastHandle ≤ s'.registry.lastHandle)
    (stands : s.initialized = true → s.Stands s') : s.Tends s' where
  records := by
    have hMembers : s'.processes.members = s.processes.members := spares.records_eq
    exact hMembers ▸ List.Sublist.refl _
  lastHandle_le := hLast
  handle?_of_given handle x _ hLive := by
    rwa [Registry.handle?, spares.handles_eq] at hLive
  endpoint_eq hUp _ := endpoint_congr (stands hUp).input_eq (stands hUp).activeOutput_eq

theorem Grants.tends {request : CreateRequest} {handle : HandleId} (grants : s.Grants request handle s')
    (hLast : s.registry.lastHandle ≤ s'.registry.lastHandle) : s.Tends s' := by
  obtain ⟨x, _, _, hHandles, _⟩ := grants.provided
  refine ⟨?_, hLast, ?_, ?_⟩
  · rw [grants.rest_eq]
  · intro other y hGiven hLive
    have hSame : s'.registry.handle? other = s.registry.handle? other := by
      apply Table.get?_of_entries_append hHandles
      simp only [List.mem_singleton, forall_eq]
      rintro rfl
      exact Nat.not_lt_of_le hGiven grants.new
    rwa [hSame] at hLive
  · intro _ _
    rw [grants.rest_eq]
    exact endpoint_congr rfl rfl

/-- A session tends to the one in which a connection is undone. -/
theorem Consistent.tends_rollback (consistent : s.Consistent) (pid : UInt32) : s.Tends (s.rollback pid) := by
  have persists := consistent.persists_rollback pid
  refine ⟨?_, ?_, ?_, ?_⟩
  · rw [members_rollback]
    exact List.eraseP_sublist
  · exact Nat.le_of_eq (lastHandle_rollback s pid).symm
  · intro handle x _ hLive
    cases hFind : s.processes.find? pid with
    | none =>
        rwa [consistent.rollback_of_not_mem (ProcessTable.find?_eq_none_iff.1 hFind)] at hLive
    | some record =>
        rw [rollback_of_find? hFind, Registry.handle?_foldl_discardHandle] at hLive
        split at hLive
        · cases hLive
        · exact hLive
  · exact fun _ _ => endpoint_congr persists.input_eq persists.activeOutput_eq

/-- Where nobody is connected there are no primary handles. -/
theorem owned_of_nobody (h : s.processes.records = []) : s.Owned := by
  have hNone : s.processes.primaries = [] := by
    rw [ProcessTable.primaries, h]
    rfl
  exact ⟨by simp [hNone], by simp [hNone], by simp [h]⟩

end Session

namespace Server

variable {env : Environment} {server : Server} {message : Message} {served : Served} {step : Step}

/-- After a connect that is hosted here, every record owns its two handles. -/
theorem Hosts.owned {issued : Nat} {info : ConnectInfo} {request : ConnectMessage}
    (hosts : Hosts env server issued message info served)
    (hInfo : ConnectInfo.ofMessage message.descriptor request = .ok info) (consistent : server.session.Consistent)
    (owned : server.session.Owned) : served.server.session.Owned := by
  have consistent' := hosts.consistent consistent
  cases hosts with
  | refused hAttach =>
      have ends := Attach.ends_of_run consistent hAttach
      have hLast := (ends.accounts_of_error consistent rfl).lastHandle_le
      by_cases hKnown : info.pid ∈ server.session.processes.pids
      · cases ends with
        | known => exact owned
        | notUp hNew => exact absurd hKnown hNew
        | inputRefused hNew => exact absurd hKnown hNew
        | outputRefused hNew => exact absurd hKnown hNew
      · obtain ⟨spares, stands, -⟩ := ends.aborted consistent hKnown rfl
        exact owned.tends consistent (Session.tends_of_spares spares hLast fun _ => stands)
  | delivered hAttach =>
      have ends := Attach.ends_of_run consistent hAttach
      exact owned.joins consistent consistent' (ends.joins_of_ok consistent hInfo rfl)
  | undelivered hAttach =>
      have ends := Attach.ends_of_run consistent hAttach
      have hLast := (ends.accounts_undelivered consistent rfl).lastHandle_le
      obtain ⟨spares, stands, -⟩ := ends.undelivered consistent rfl
      exact owned.tends consistent (Session.tends_of_spares spares hLast stands)

/-- A handoff attempt leaves the handles with their owners. -/
theorem owned_attempt {target : Clsid} {result : Handoff.Attempt} (consistent : server.session.Consistent)
    (owned : server.session.Owned)
    (hAttempt : Handoff.attempt env server.transport.serverHandle target message.descriptor
      server.session = result) : result.session.Owned := by
  rcases Handoff.session_of_attempt hAttempt with hSame | hGiven
  · rw [hSame]
    exact owned
  · rw [hGiven]
    exact owned.tends consistent (Session.tends_of_eq rfl rfl (Nat.le_refl _) rfl rfl)

/-- After a connect, every record owns its two handles. -/
theorem Connects.owned {request : ConnectMessage} (connects : Connects env server message request served)
    (consistent : server.session.Consistent) (owned : server.session.Owned) : served.server.session.Owned := by
  cases connects with
  | invalid => exact owned
  | @hosted info hInfo =>
      have hosts : Hosts env server.counted 0 message info (server.counted.hostLocally env 0 message info) :=
        hosts_hostLocally
      exact hosts.owned hInfo consistent owned
  | handedOver _ _ hAttempt => exact owned_attempt consistent owned hAttempt
  | @fellBack info target failure session calls served hInfo hTarget hAttempt hServed =>
      have hosts : Hosts env (server.declined target failure session) _ message info served :=
        hServed ▸ hosts_hostLocally
      exact hosts.owned hInfo (consistent_attempt consistent hTarget hAttempt)
        (owned_attempt consistent owned hAttempt)

theorem tends_create {request : CreateRequest} (hRequest : message.request = .create request)
    (consistent : server.session.Consistent) :
    server.session.Tends (server.create message request).server.session := by
  have hLast := (answers_create hRequest consistent).accounts.lastHandle_le
  have settled : Settled server message request (server.create message request) := settled_create consistent request
  by_cases hCompleted : (server.create message request).completion = .completed
  · cases settled.creates hCompleted with
    | delivered _ grants => exact grants.tends hLast
    | lost _ hRest hHandles =>
        rw [hRest]
        exact Session.tends_of_eq rfl hHandles hLast rfl rfl
  · rw [(settled.refused hCompleted).1]
    exact Session.tends_of_eq rfl rfl (Nat.le_refl _) rfl rfl

theorem tends_close : server.session.Tends (server.close message).server.session := by
  refine ⟨List.Sublist.refl _, Nat.le_of_eq Registry.lastHandle_discardHandle.symm, ?_,
    fun _ _ => Session.endpoint_congr rfl rfl⟩
  intro handle x _ hLive
  have hClosed : (server.session.registry.discardHandle message.descriptor.handle).handle? handle = some x := hLive
  rw [Registry.handle?_discardHandle] at hClosed
  split at hClosed
  · cases hClosed
  · exact hClosed

/-- Every step leaves the primary handles with their owners. -/
theorem owned_turn (hStandard : step.Standard) (consistent : server.session.Consistent)
    (owned : server.session.Owned) : (server.turn step).server.session.Owned := by
  cases step with
  | failNext => exact owned
  | focus on => exact owned.tends consistent (Session.tends_of_eq rfl rfl (Nat.le_refl _) rfl rfl)
  | shutdown => exact Session.owned_of_nobody (Session.records_foldl_rollback rfl)
  | dispatch env message =>
      simp only [turn, dispatch]
      cases hRequest : message.request with
      | create request => exact owned.tends consistent (tends_create hRequest consistent)
      | close => exact owned.tends consistent tends_close
      | connect request => exact connects_connect.owned consistent owned
      | disconnect =>
          simp only [disconnect]
          split
          · exact owned
          · simp only [Environment.Standard.depart_eq hStandard, Session.snd_depart]
            exact owned.tends consistent (consistent.tends_rollback _)
      | api call =>
          simp only [api]
          split
          · exact owned
          · simp only [Environment.Standard.session_answer hStandard]
            exact owned

/-- Over any run, every record owns its two handles. -/
theorem Run.owned {first : Server} {turns : List Turn} (run : Run first turns server) (started : Started first) :
    server.session.Owned := by
  induction run with
  | idle =>
      obtain ⟨options, capacity, serverHandle, event, rfl⟩ := started.eq_fresh
      exact Session.owned_of_nobody rfl
  | step prior step hStandard ih => exact owned_turn hStandard (prior.consistent started.consistent) ih

end Server

end ConsoleHost
