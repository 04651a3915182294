import ConsoleHost.Proofs.Session.Attach

/-! What processes that come and go leave as it is: whether the session is up, its wake event, its title, and the
endpoints it pins. Only bringing a session up, giving it away and releasing it change any of that. -/

namespace ConsoleHost

namespace Session

/-- Where one session stood, the other stands, with the same endpoints pinned. -/
structure Persists (s s' : Session) : Prop where
  initialized_eq : s'.initialized = s.initialized
  wakeEvent_eq : s'.wakeEvent = s.wakeEvent
  input_eq : s'.input = s.input
  activeOutput_eq : s'.activeOutput = s.activeOutput
  title_eq : s'.title = s.title
  registry : s.registry.Continues s'.registry

variable {s s' : Session}

theorem Persists.trans {s'' : Session} (first : s.Persists s') (second : s'.Persists s'') : s.Persists s'' where
  initialized_eq := second.initialized_eq.trans first.initialized_eq
  wakeEvent_eq := second.wakeEvent_eq.trans first.wakeEvent_eq
  input_eq := second.input_eq.trans first.input_eq
  activeOutput_eq := second.activeOutput_eq.trans first.activeOutput_eq
  title_eq := second.title_eq.trans first.title_eq
  registry := first.registry.trans second.registry

theorem Hosts.persist {event : RawHandle} {input output : ObjectId} {buffer window : Size}
    (hosts : s.Hosts event input output buffer window) (persists : s.Persists s') :
    s'.Hosts event input output buffer window :=
  hosts.congr persists.initialized_eq persists.wakeEvent_eq persists.input_eq persists.activeOutput_eq
    persists.registry

theorem Hosts.activeOutputSize?_eq {event : RawHandle} {input output : ObjectId} {buffer window : Size}
    (hosts : s.Hosts event input output buffer window) : s.activeOutputSize? = some (buffer, window) := by
  obtain ⟨counts, hObject⟩ := (hosts.pins_iff output (.output buffer window)).2 (.inr ⟨rfl, rfl⟩)
  simp [activeOutputSize?, hosts.activeOutput_eq, hObject]

theorem persists_with_registry {registry : Registry} (continues : s.registry.Continues registry) :
    s.Persists { s with registry := registry } :=
  ⟨rfl, rfl, rfl, rfl, rfl, continues⟩

theorem persists_withProcess {info : ConnectInfo} {record : ProcessRecord} {registry : Registry}
    (continues : s.registry.Continues registry) : s.Persists (s.withProcess info record registry) :=
  ⟨rfl, rfl, rfl, rfl, rfl, continues⟩

theorem Consistent.persists (consistent : s.Consistent) : s.Persists s :=
  persists_with_registry consistent.continues

theorem Consistent.persists_rollback (consistent : s.Consistent) (pid : UInt32) :
    s.Persists (s.rollback pid) := by
  cases hFind : s.processes.find? pid with
  | none =>
      rw [consistent.rollback_of_not_mem (ProcessTable.find?_eq_none_iff.1 hFind)]
      exact consistent.persists
  | some record =>
      rw [rollback_of_find? hFind]
      exact ⟨rfl, rfl, rfl, rfl, rfl, consistent.continues.foldl_discardHandle record.primaryHandles⟩

end Session

/-- A process that attaches finds the session as it is, and leaves it so whether it gets through or not. -/
theorem Attach.Ends.persists {env : Environment} {defaults : SessionDefaults} {headless : Bool} {issued : Nat}
    {s : Session} {t : Loopback} {info : ConnectInfo} {o : Outcome}
    (ends : Ends env defaults headless issued s t info o) (consistent : s.Consistent)
    (hUp : s.initialized = true) : s.Persists o.session := by
  have hRaised : BringUp.run env defaults headless issued s info = ⟨.ok (), s, []⟩ :=
    BringUp.run_of_initialized hUp
  cases ends with
  | known => exact consistent.persists
  | notUp _ hFailed => cases hRaised.symm.trans hFailed
  | inputRefused => exact ⟨rfl, rfl, rfl, rfl, rfl, consistent.continues⟩
  | outputRefused _ _ _ _ _ _ restores =>
      exact ⟨rfl, rfl, rfl, rfl, rfl, restores.continues consistent.sound consistent.held⟩
  | attached _ hFound _ _ hOne hTwo =>
      cases hRaised.symm.trans hFound
      exact Session.persists_withProcess ((consistent.continues.openHandle hOne).openHandle hTwo)

end ConsoleHost
