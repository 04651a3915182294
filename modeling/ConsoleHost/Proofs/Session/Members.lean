import ConsoleHost.Proofs.Calls
import ConsoleHost.Proofs.Session.Attach

/-! Who is a member of a session, whatever else is the case with it. Nothing is assumed of the session here:
attaching a process adds one record behind the others or leaves them as they were, and of all that can become
of a record only its foreground right may change. -/

namespace ConsoleHost

namespace ProcessTable

variable {t : ProcessTable} {record : ProcessRecord} {pid : UInt32} {token : Nat}

/-- The records apart from their foreground rights, which come and go. -/
def members (t : ProcessTable) : ProcessTable := t.setForeground false

@[simp] theorem members_setForeground (on : Bool) : (t.setForeground on).members = t.members := by
  simp [members, setForeground]

@[simp] theorem pids_members : t.members.pids = t.pids := pids_setForeground false

/-- Whoever enters becomes a member, whatever the foreground flag. -/
theorem members_enter : (t.enter record).members = t.members.enter { record with foreground := false } :=
  setForeground_enter false

theorem members_erase : (t.erase pid).members = t.members.erase pid := by
  simp [members, setForeground, erase, List.eraseP_map, Function.comp_def]

/-- A change of a record that has nothing to do with who it is of, nor with its foreground right. -/
def Keeps (change : ProcessRecord → ProcessRecord) : Prop :=
  ∀ p, (change p).pid = p.pid ∧
    { change p with foreground := false } = change { p with foreground := false }

theorem members_update {change : ProcessRecord → ProcessRecord} (keeps : Keeps change) :
    (t.update pid change).members = t.members.update pid change := by
  simp only [members, setForeground, update, List.map_map]
  refine congrArg ProcessTable.mk (List.map_congr_left fun p _ => ?_)
  by_cases hPid : p.pid = pid
  · simp [hPid, (keeps p).2]
  · simp [hPid]

/-- A token addresses the same member, whatever the foreground flags. -/
theorem findByToken?_members :
    t.members.findByToken? token = (t.findByToken? token).map ({ · with foreground := false }) := by
  simp only [findByToken?, members, setForeground, List.find?_map]
  rfl

/-- Who is addressed does not depend on foreground rights. -/
theorem findByToken?_of_members (h : t.members.findByToken? token = some record) :
    ∃ on, t.findByToken? token = some { record with foreground := on } := by
  rw [findByToken?_members] at h
  obtain ⟨found, hFound, rfl⟩ := Option.map_eq_some_iff.1 h
  exact ⟨found.foreground, hFound⟩

theorem findByToken?_eq_none_of_members (h : t.members.findByToken? token = none) :
    t.findByToken? token = none := by
  rwa [findByToken?_members, Option.map_eq_none_iff] at h

end ProcessTable

namespace Session

/-- Another session has the members of this one, and a last one with this process identifier and token. Its
registry is as sound. -/
structure Seats (s : Session) (pid : UInt32) (token : Option Nat) (s' : Session) : Prop where
  members_eq : ∃ record, record.pid = pid ∧ record.token = token ∧
    s'.processes.members = s.processes.members.enter record
  sound : s.registry.Sound → s'.registry.Sound

variable {s u v : Session} {pid : UInt32} {token : Option Nat}

/-- The record of a new process takes the last place. -/
theorem seats_enter (s : Session) (record : ProcessRecord) :
    s.Seats record.pid record.token { s with processes := s.processes.enter record } :=
  ⟨⟨{ record with foreground := false }, rfl, rfl, ProcessTable.members_enter⟩, id⟩

/-- A seat depends on the members and on the registry alone. -/
theorem Seats.congr (seats : s.Seats pid token u)
    (hMembers : v.processes.members = u.processes.members)
    (hSound : u.registry.Sound → v.registry.Sound) : s.Seats pid token v := by
  obtain ⟨⟨record, hPid, hToken, hEq⟩, sound⟩ := seats
  exact ⟨⟨record, hPid, hToken, hMembers.trans hEq⟩, fun h => hSound (sound h)⟩

/-- A change of the last record. -/
theorem Seats.update (seats : s.Seats pid token u) (hNew : pid ∉ s.processes.pids)
    {change : ProcessRecord → ProcessRecord} (keeps : ProcessTable.Keeps change)
    {after : Option Nat} (hToken : ∀ p, p.token = token → (change p).token = after)
    (hMembers : v.processes = u.processes.update pid change)
    (hSound : u.registry.Sound → v.registry.Sound) : s.Seats pid after v := by
  obtain ⟨⟨record, rfl, hBefore, hEq⟩, sound⟩ := seats
  refine ⟨⟨change record, (keeps record).1, hToken record hBefore, ?_⟩, fun h => hSound (sound h)⟩
  rw [hMembers, ProcessTable.members_update keeps, hEq]
  exact ProcessTable.update_enter change (by rwa [ProcessTable.pids_members])

theorem Seats.spreadForeground (seats : s.Seats pid token u) : s.Seats pid token u.spreadForeground :=
  seats.congr (ProcessTable.members_setForeground _) id

theorem Seats.requestHistory (seats : s.Seats pid token u) (appName : String) (user : UInt32) :
    s.Seats pid token (u.requestHistory appName user) :=
  seats.congr rfl id

/-- Opening an endpoint for the new process leaves it in its seat. -/
theorem Seats.openPrimary (seats : s.Seats pid token u) (hNew : pid ∉ s.processes.pids)
    {object : ObjectId} {note : HandleId → ProcessRecord → ProcessRecord} {result : Except Refusal HandleId}
    (h : u.openPrimary pid object note = (result, v)) (keeps : ∀ handle, ProcessTable.Keeps (note handle))
    (hToken : ∀ handle p, (note handle p).token = p.token) : s.Seats pid token v := by
  obtain ⟨refusal, hOpen⟩ | ⟨opened, hOpen⟩ := u.registry.openHandle_cases object .readWrite .all
  · simp only [Session.openPrimary, hOpen] at h
    cases h
    exact seats
  · simp only [Session.openPrimary, hOpen] at h
    cases h
    exact seats.update hNew (keeps _) (fun p hp => (hToken _ p).trans hp) rfl fun sound =>
      sound.openHandle hOpen

/-- Opening both endpoints leaves the new process in its seat. -/
theorem Seats.openPrimaries (seats : s.Seats pid token u) (hNew : pid ∉ s.processes.pids)
    {result : Except Refusal (HandleId × HandleId)} (h : u.openPrimaries pid = (result, v)) :
    s.Seats pid token v := by
  simp only [Session.openPrimaries] at h
  split at h
  · cases h
    exact seats
  · cases h
    exact seats
  · split at h
    · next hInput =>
        cases h
        exact seats.openPrimary hNew hInput (fun _ _ => ⟨rfl, rfl⟩) fun _ _ => rfl
    · next hInput =>
        have first := seats.openPrimary hNew hInput (fun _ _ => ⟨rfl, rfl⟩) fun _ _ => rfl
        split at h
        · next hOutput =>
            cases h
            exact first.openPrimary hNew hOutput (fun _ _ => ⟨rfl, rfl⟩) fun _ _ => rfl
        · next hOutput =>
            cases h
            exact first.openPrimary hNew hOutput (fun _ _ => ⟨rfl, rfl⟩) fun _ _ => rfl

/-- Undoing a connection keeps the registry sound. -/
theorem sound_rollback (sound : s.registry.Sound) (pid : UInt32) : (s.rollback pid).registry.Sound := by
  cases hFind : s.processes.find? pid with
  | none =>
      rw [rollback_of_not_mem (ProcessTable.find?_eq_none_iff.1 hFind)]
      exact sound
  | some record =>
      rw [rollback_of_find? hFind]
      exact List.foldlRecOn record.primaryHandles Registry.discardHandle sound
        fun _ sound handle _ => sound.discardHandle handle

theorem members_rollback (s : Session) (pid : UInt32) :
    (s.rollback pid).processes.members = s.processes.members.erase pid := by
  cases hFind : s.processes.find? pid with
  | none =>
      have hNone := ProcessTable.find?_eq_none_iff.1 hFind
      have hErase : s.processes.members.erase pid = s.processes.members := by
        rw [← ProcessTable.pids_members] at hNone
        have hOthers : ∀ p ∈ s.processes.members.records, ¬decide (p.pid = pid) = true :=
          fun p hMem => by simpa using ProcessTable.ne_of_not_mem hNone hMem
        simp [ProcessTable.erase, List.eraseP_of_forall_not hOthers]
      rw [rollback_of_not_mem hNone, hErase]
      rfl
  | some record =>
      rw [rollback_of_find? hFind]
      exact ProcessTable.members_erase

/-- Removing the last member again brings the members back. -/
theorem Seats.members_rollback (seats : s.Seats pid token u) (hNew : pid ∉ s.processes.pids) :
    (u.rollback pid).processes.members = s.processes.members := by
  obtain ⟨⟨record, rfl, _, hEq⟩, _⟩ := seats
  rw [Session.members_rollback, hEq]
  exact ProcessTable.erase_enter (by rwa [ProcessTable.pids_members])

end Session

open Call

namespace BringUp

variable {env : Environment} {defaults : SessionDefaults} {headless : Bool} {issued : Nat}
  {s : Session} {info : ConnectInfo}

/-- Bring-up adds no member and reaches no client, and keeps the registry sound. -/
theorem spares_members (env : Environment) (defaults : SessionDefaults) (headless : Bool) (issued : Nat)
    (s : Session) (info : ConnectInfo) :
    (run env defaults headless issued s info).session.processes = s.processes ∧
      (s.registry.Sound → (run env defaults headless issued s info).session.registry.Sound) ∧
      reaching (run env defaults headless issued s info).calls = [] := by
  have hHold := reaching_holdWakeEvent env.system issued s
  have hOpen := reaching_openWindow env headless (title defaults info) (windowSize defaults info)
  simp only [run]
  split
  · exact ⟨rfl, id, rfl⟩
  · split
    · next hEvent => exact ⟨rfl, id, by rwa [hEvent] at hHold⟩
    · next event calls hEvent =>
        rw [hEvent] at hHold
        split
        · next hWindow =>
            rw [hWindow] at hOpen
            exact ⟨rfl, fun sound => (((sound.create _ _).create _ _).unpin _).unpin _,
              by simp only [reaching_append, hHold, hOpen, List.nil_append]⟩
        · next hWindow =>
            rw [hWindow] at hOpen
            exact ⟨rfl, fun sound => (sound.create _ _).create _ _,
              by simp only [reaching_append, hHold, hOpen, List.nil_append]⟩

end BringUp

namespace Attach

variable {env : Environment} {defaults : SessionDefaults} {headless : Bool} {issued : Nat}
  {s u : Session} {t : Loopback} {info : ConnectInfo} {o : Outcome}

/-- What attaching a process comes to for the members of a session. -/
inductive Exits (s : Session) (t : Loopback) (info : ConnectInfo) : Outcome → Prop where
  | known (hKnown : info.pid ∈ s.processes.pids) :
      Exits s t info ⟨.error (.alreadyConnected info.pid), s, t, []⟩
  | refused {refusal : Refusal} {v : Session} {calls : List Call} (hNew : info.pid ∉ s.processes.pids)
      (seats : s.Seats info.pid none v) (hCalls : reaching calls = []) :
      Exits s t info ⟨.error refusal, v.rollback info.pid, t, calls⟩
  | attached {v : Session} {input output : HandleId} {published : Publication} {calls : List Call}
      (hPublished : t.publishConnection info.pid input output = published)
      (hNew : info.pid ∉ s.processes.pids) (seats : s.Seats info.pid (some published.tokens.process) v)
      (hCalls : reaching calls = published.calls) :
      Exits s t info ⟨.ok published.tokens, v, published.transport, calls⟩

/-- The steps after bring-up refuse the process, or publish it and note its token. -/
theorem settle_cases (env : Environment) (told : Nat) (t : Loopback) (hNew : info.pid ∉ s.processes.pids)
    (seats : s.Seats info.pid none u) :
    (∃ refusal v calls, settle env told u t info = ⟨.error refusal, v, t, calls⟩ ∧
        s.Seats info.pid none v ∧ reaching calls = []) ∨
      ∃ v input output calls published, t.publishConnection info.pid input output = published ∧
        settle env told u t info = ⟨.ok published.tokens, v, published.transport, calls⟩ ∧
        s.Seats info.pid (some published.tokens.process) v ∧ reaching calls = published.calls := by
  have ready := (seats.requestHistory info.appName info.pid).spreadForeground
  rcases hOpen : (u.requestHistory info.appName info.pid).spreadForeground.openPrimaries info.pid with
    ⟨refusal | ⟨input, output⟩, v⟩
  · left
    simp only [settle, hOpen]
    exact ⟨_, _, _, rfl, ready.openPrimaries hNew hOpen, env.reaching_controlCalls ..⟩
  · right
    simp only [settle, hOpen]
    refine ⟨_, input, output, _, _, rfl, rfl, ?_, ?_⟩
    · have keeps (token : Nat) : ProcessTable.Keeps ({ · with token := some token }) := fun _ => ⟨rfl, rfl⟩
      exact (ready.openPrimaries hNew hOpen).update hNew (keeps _) (fun _ _ => rfl) rfl id
    · rw [reaching_append, env.reaching_controlCalls, List.nil_append]
      rfl

/-- After any attach, the members are those before it, or one more in the last seat. -/
theorem exits_run (env : Environment) (defaults : SessionDefaults) (headless : Bool) (issued : Nat)
    (s : Session) (t : Loopback) (info : ConnectInfo) :
    Exits s t info (run env defaults headless issued s t info) := by
  by_cases hNew : info.pid ∈ s.processes.pids
  · have hJoin : s.processes.join (joining s info) = .error (.alreadyConnected info.pid) :=
      ProcessTable.join_of_mem hNew
    simp only [joining] at hJoin
    simp only [run, hJoin]
    exact .known hNew
  · have hJoin := join_joining hNew
    simp only [joining] at hJoin
    simp only [run, hJoin, complete]
    have joined : s.Seats info.pid none _ := s.seats_enter (joining s info)
    rw [joining] at joined
    obtain ⟨hProcesses, hSound, hUpCalls⟩ := BringUp.spares_members env defaults headless issued
      { s with processes := s.processes.enter (joining s info) } info
    rw [joining] at hProcesses hSound hUpCalls
    have hGreeting := env.reaching_controlCalls 0 (announcements info)
    have hStarted := env.reaching_accessibilityCalls .started info.pid
    generalize BringUp.run env defaults headless issued _ info = up at hProcesses hSound hUpCalls
    obtain ⟨result, u, calls⟩ := up
    have seats : s.Seats info.pid none u := joined.congr (congrArg ProcessTable.members hProcesses) hSound
    cases result with
    | error refusal =>
        exact .refused hNew seats
          (by simp only [reaching_append, hGreeting, hStarted, hUpCalls, List.nil_append])
    | ok _ =>
        rcases settle_cases env (announcements info).length t hNew seats with
          ⟨refusal, v, told, hSettle, refused, hTold⟩ |
            ⟨v, input, output, told, published, hPublished, hSettle, attached, hTold⟩
        · simp only [hSettle]
          exact .refused hNew refused
            (by simp only [reaching_append, hGreeting, hStarted, hUpCalls, hTold, List.nil_append])
        · simp only [hSettle]
          exact .attached hPublished hNew attached
            (by simp only [reaching_append, hGreeting, hStarted, hUpCalls, hTold, List.nil_append])

end Attach

end ConsoleHost
