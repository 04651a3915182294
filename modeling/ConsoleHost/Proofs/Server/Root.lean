import ConsoleHost.Proofs.Server.Tokens
import ConsoleHost.Proofs.Server.Turnover

/-! The root of a session. It is the process for which the session was brought up, and that is the first process for
which a reply was handed to the transport. If that reply is lost, the session is up without a root, and no process
becomes its root later. -/

namespace ConsoleHost.Server

open Call

variable {server : Server} {step : Step} {turns : List Turn} {c : Connection}

theorem admitted_of_connection? {calls : List Call} (h : Call.connection? calls = some c) :
    admitted calls = [(c.pid, c.token)] := by
  rw [Call.connection?] at h
  split at h
  · next hAdmitted _ =>
      cases h
      exact hAdmitted
  · cases h

/-- A connection is made under the next token. -/
theorem token_of_connection? (keeps : step.KeepsMembers) (h : (server.turn step).connection? = some c) :
    c.token = Loopback.processTokenBase + server.transport.processTokens + 1 ∧
      (server.turn step).server.transport.processTokens = server.transport.processTokens + 1 := by
  have hAdmitted := admitted_of_connection? h
  have hToken {pid : UInt32} {token : Nat} (hCalls : admitted (server.turn step).calls = [(pid, token)]) :
      c.token = token := by
    have hSame := hAdmitted.symm.trans hCalls
    simp only [List.cons.injEq, Prod.mk.injEq, and_true] at hSame
    exact hSame.2
  cases server.moves_turn keeps with
  | kept _ _ _ hCalls => cases hAdmitted.symm.trans hCalls
  | joined _ _ _ _ hFresh _ grows hCalls =>
      exact ⟨(hToken hCalls).trans hFresh, grows.processTokens_eq⟩
  | unheard _ _ hFresh _ grows hCalls =>
      exact ⟨(hToken hCalls).trans hFresh, grows.processTokens_eq⟩
  | left _ _ _ _ hCalls => cases hAdmitted.symm.trans hCalls
  | closed _ _ _ hCalls => cases hAdmitted.symm.trans hCalls

/-- Process tokens that were given out stay given out. -/
theorem processTokens_le_turn (keeps : step.KeepsMembers) :
    server.transport.processTokens ≤ (server.turn step).server.transport.processTokens := by
  have hLe : Loopback.processTokenBase + server.transport.processTokens ≤
      Loopback.processTokenBase + (server.turn step).server.transport.processTokens :=
    (server.moves_turn keeps).token_le (Nat.le_refl _)
  omega

/-- How a server stands to the first connection that was made. -/
structure Rooted (server : Server) (connection : Option Connection) : Prop where
  of_none : connection = none →
    server.session.initialized = false ∧ server.session.processes.members.records = []
  of_some : ∀ c, connection = some c → server.session.initialized = true ∧
    c.token ≤ Loopback.processTokenBase + server.transport.processTokens ∧
    ∀ p ∈ server.session.processes.members.records,
      p.root = true ↔ c.delivered = true ∧ p.token = some c.token

theorem rooted_none (hDown : server.session.initialized = false)
    (hNobody : server.session.processes.members.records = []) : Rooted server none where
  of_none _ := ⟨hDown, hNobody⟩
  of_some c hNone := by cases hNone

theorem rooted_some (hUp : server.session.initialized = true)
    (hGiven : c.token ≤ Loopback.processTokenBase + server.transport.processTokens)
    (hRoot : ∀ p ∈ server.session.processes.members.records,
      p.root = true ↔ c.delivered = true ∧ p.token = some c.token) : Rooted server (some c) where
  of_none hSome := by cases hSome
  of_some d hSame := by
    cases hSame
    exact ⟨hUp, hGiven, hRoot⟩

theorem Started.rooted (started : Started server) : Rooted server none := by
  obtain ⟨options, capacity, serverHandle, event, rfl⟩ := started.eq_fresh
  exact rooted_none rfl rfl

/-- The first connection decides who is the root. -/
theorem Rooted.turn_of_none (rooted : Rooted server none) (hStandard : step.Standard) (hKept : step ≠ .shutdown)
    (consistent : server.session.Consistent) :
    Rooted (server.turn step).server (server.turn step).connection? := by
  obtain ⟨hDown, hNobody⟩ := rooted.of_none rfl
  have hToken : ∀ c, (server.turn step).connection? = some c →
      c.token ≤ Loopback.processTokenBase + (server.turn step).server.transport.processTokens := by
    intro c hConnection
    obtain ⟨hNext, hGrows⟩ := token_of_connection? hStandard.keepsMembers hConnection
    omega
  have turnover := turnover_turn hStandard consistent
  generalize (server.turn step).connection? = connection at hToken turnover
  cases turnover with
  | stayed stays hInitialized =>
      refine rooted_none (hInitialized.trans hDown) ?_
      rw [stays.members_eq, hNobody]
  | joined _ gains hRecord =>
      refine rooted_some gains.initialized_eq (hToken _ rfl) fun p hMem => ?_
      rw [gains.members_eq, ProcessTable.enter, hNobody] at hMem
      cases List.mem_singleton.1 hMem
      exact iff_of_true (gains.root_eq.trans (by rw [hDown]; rfl)) ⟨rfl, hRecord⟩
  | unheard stays hUp =>
      refine rooted_some hUp (hToken _ rfl) fun p hMem => ?_
      rw [stays.members_eq, hNobody] at hMem
      cases hMem
  | left _ _ loses =>
      refine rooted_none (loses.initialized_eq.trans hDown) ?_
      rw [loses.members_eq, ProcessTable.erase, hNobody]
      rfl
  | closed hStep => exact absurd hStep hKept

/-- The first process is the root exactly if its client was told that it is connected. -/
theorem Rooted.root_of_delivered (rooted : Rooted server none) (hStandard : step.Standard)
    (consistent : server.session.Consistent) (h : (server.turn step).connection? = some c) :
    c.delivered = true ↔ ∃ p ∈ (server.turn step).server.session.processes.records,
      p.pid = c.pid ∧ p.token = some c.token ∧ p.root = true := by
  obtain ⟨hDown, hNobody⟩ := rooted.of_none rfl
  have turnover := turnover_turn hStandard consistent
  rw [h] at turnover
  cases turnover with
  | @joined _ info record token _ gains hRecord =>
      have hMember : record ∈ (server.turn step).server.session.processes.members.records := by
        rw [gains.members_eq]
        exact List.mem_append_right _ (List.mem_singleton_self record)
      obtain ⟨p, hMem, rfl⟩ := List.mem_map.1 hMember
      have hRoot : p.root = true := gains.root_eq.trans (by rw [hDown]; rfl)
      exact iff_of_true rfl ⟨p, hMem, gains.pid_eq, hRecord, hRoot⟩
  | unheard stays _ =>
      refine iff_of_false Bool.false_ne_true ?_
      rintro ⟨p, hMem, -⟩
      have hEmpty : (server.turn step).server.session.processes.records = [] :=
        List.map_eq_nil_iff.1 (stays.members_eq ▸ hNobody)
      rw [hEmpty] at hMem
      cases hMem

/-- Later connections make nobody the root. -/
theorem Rooted.turn_of_some (rooted : Rooted server (some c)) (hStandard : step.Standard)
    (hKept : step ≠ .shutdown) (consistent : server.session.Consistent) :
    Rooted (server.turn step).server (some c) := by
  obtain ⟨hUp, hGiven, hRoot⟩ := rooted.of_some c rfl
  have hLe : server.transport.processTokens ≤ (server.turn step).server.transport.processTokens :=
    processTokens_le_turn hStandard.keepsMembers
  have hToken : ∀ later, (server.turn step).connection? = some later → c.token < later.token := by
    intro later hConnection
    obtain ⟨hNext, -⟩ := token_of_connection? hStandard.keepsMembers hConnection
    omega
  have turnover := turnover_turn hStandard consistent
  generalize (server.turn step).connection? = connection at hToken turnover
  cases turnover with
  | stayed stays hInitialized =>
      refine rooted_some (hInitialized.trans hUp) (by omega) ?_
      rw [stays.members_eq]
      exact hRoot
  | joined _ gains hRecord =>
      refine rooted_some gains.initialized_eq (by omega) fun p hMem => ?_
      rw [gains.members_eq] at hMem
      rcases List.mem_append.1 hMem with hOld | hLast
      · exact hRoot p hOld
      · cases List.mem_singleton.1 hLast
        have hLater := hToken _ rfl
        refine iff_of_false ?_ ?_
        · rw [gains.root_eq, hUp]
          exact Bool.false_ne_true
        · rintro ⟨-, hSame⟩
          cases hRecord.symm.trans hSame
          exact Nat.lt_irrefl _ hLater
  | unheard stays hInitialized =>
      refine rooted_some hInitialized (by omega) ?_
      rw [stays.members_eq]
      exact hRoot
  | left _ _ loses =>
      refine rooted_some (loses.initialized_eq.trans hUp) (by omega) fun p hMem => hRoot p ?_
      rw [loses.members_eq] at hMem
      exact ProcessTable.mem_records_of_mem_erase hMem
  | closed hStep => exact absurd hStep hKept

theorem Run.rooted {first : Server} (run : Run first turns server) (started : Started first)
    (hKept : ∀ turn ∈ turns, turn.step ≠ .shutdown) : Rooted server (turns.findSome? Turn.connection?) := by
  induction run with
  | idle => exact started.rooted
  | @step turns middle prior step hStandard ih =>
      rw [List.forall_mem_append] at hKept
      have rooted := ih hKept.1
      have consistent := prior.consistent started.consistent
      have hStep : step ≠ .shutdown := step_turn middle step ▸ hKept.2 _ (List.mem_singleton_self _)
      rw [List.findSome?_append]
      -- Whether a connection was made before decides who the first one is.
      cases hFirst : turns.findSome? Turn.connection? with
      | none =>
          rw [hFirst] at rooted
          have after := rooted.turn_of_none hStandard hStep consistent
          simpa using after
      | some c =>
          rw [hFirst] at rooted
          exact rooted.turn_of_some hStandard hStep consistent

/-- In a run without a shutdown, the first connection for which a reply was handed to the transport is the one that
brought the session up. If its reply was delivered, its process is the root for as long as it is connected, and nobody
else ever is. If it was lost, nobody is the root at any time. -/
theorem root_iff_first_connection {first last : Server} (started : Started first) (run : Run first turns last)
    (hKept : ∀ turn ∈ turns, turn.step ≠ .shutdown) :
    match turns.findSome? Turn.connection? with
    | none => last.session.processes.records = []
    | some c =>
      (∀ p ∈ last.session.processes.records, p.root = true ↔ c.delivered = true ∧ p.token = some c.token) ∧
        ∃ turn ∈ turns, turn.connection? = some c ∧
          (c.delivered = true ↔ ∃ p ∈ turn.server.session.processes.records,
            p.pid = c.pid ∧ p.token = some c.token ∧ p.root = true) := by
  have rooted := run.rooted started hKept
  cases hFirst : turns.findSome? Turn.connection? with
  | none => exact List.map_eq_nil_iff.1 (rooted.of_none hFirst).2
  | some c =>
      obtain ⟨-, -, hRoot⟩ := rooted.of_some c hFirst
      obtain ⟨prior, turn, later, rfl, hTurn, hBefore⟩ := List.findSome?_eq_some_iff.1 hFirst
      obtain ⟨server, before, hStandard, hTaken⟩ := run.at_turn
      rw [List.forall_mem_append] at hKept
      have unrooted := before.rooted started hKept.1
      rw [List.findSome?_eq_none_iff.2 hBefore] at unrooted
      refine ⟨fun p hMem => ?_, turn, by simp, hTurn, ?_⟩
      · have hMember : { p with foreground := false } ∈ last.session.processes.members.records :=
          List.mem_map_of_mem hMem
        have hRooted := hRoot _ hMember
        exact hRooted
      · rw [hTaken] at hTurn ⊢
        exact unrooted.root_of_delivered hStandard (before.consistent started.consistent) hTurn

def paired : List Step := [.dispatch quiet (connecting 7), .dispatch quiet (connecting 9)]

/-- The first process stays the root beside the next. -/
theorem root_iff_first_connection_paired :
    (begun.follow paired).session.processes.pids = [7, 9] ∧
      ∀ p ∈ (begun.follow paired).session.processes.records,
        p.root = true ↔ p.token = some (Loopback.processTokenBase + 1) := by
  have hStandard : ∀ step ∈ paired, step.Standard := standard_quiet (by simp [paired])
  have hKept : ∀ turn ∈ begun.turns paired, turn.step ≠ .shutdown := by
    simp [paired, turns, step_turn]
  have hFirst : (begun.turns paired).findSome? Turn.connection? =
      some ⟨7, Loopback.processTokenBase + 1, true⟩ := by decide
  have first := root_iff_first_connection started_begun (Run.idle.follow hStandard) hKept
  rw [List.nil_append, hFirst] at first
  exact ⟨by decide, by simpa using first.1⟩

/-- The first client is not told that it is connected. -/
def unnoticed : List Step := .failNext 1 :: paired

/-- The only process whose client was ever told that it is connected is not the root. -/
theorem root_unmarked :
    Reachable (begun.follow unnoticed) ∧
      (begun.turns unnoticed).map Turn.connection? =
        [none, some ⟨7, Loopback.processTokenBase + 1, false⟩,
          some ⟨9, Loopback.processTokenBase + 2, true⟩] ∧
      (begun.follow unnoticed).session.processes.records.map (fun p => (p.pid, p.root)) = [(9, false)] := by
  have hReachable : Reachable (begun.follow unnoticed) := reachable_quiet (by simp [unnoticed, paired])
  exact ⟨hReachable, by decide, by decide⟩

end ConsoleHost.Server
