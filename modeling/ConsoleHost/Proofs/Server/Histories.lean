import ConsoleHost.Proofs.Connect
import ConsoleHost.Proofs.Server.Turnover

/-! The history buffers of a running server follow its connections. There are never more than there may be, and each
that is lent is lent to a process that is connected, under the name of the application with which that process
connected. A process that asks for one gets one while there is one to be had, at nobody's expense. -/

namespace ConsoleHost

open Call

namespace Server

/-- The turn in which a process was connected, with what its client asked for. -/
structure Turn.Joins (turn : Turn) (p : ProcessRecord) (request : ConnectMessage) (info : ConnectInfo) : Prop where
  connects : turn.step.ConnectsAs request info
  pid_eq : info.pid = p.pid
  shown : ∃ token, p.token = some token ∧ turn.connection? = some ⟨p.pid, token, true⟩

/-- The buffers of a session, of which there may be so many, follow the connections that were made in these turns. -/
structure Follows (capacity : Nat) (turns : List Turn) (s : Session) : Prop where
  capacity_eq : s.histories.capacity = capacity
  fits : s.histories.Fits
  named : ∀ p ∈ s.processes.members.records, ∃ turn ∈ turns, ∃ request info,
    turn.Joins p request info ∧ s.histories.NamedFor p.pid info.appName

/-- Serving a connect request gets as far as to ask for a history buffer, and this is the session then: the message
is valid, the session is not handed over, and the process has joined it. -/
inductive AsksIn (env : Environment) (server : Server) (message : Message) (info : ConnectInfo) (asking : Session) :
    Prop where
  | hosted {request : ConnectMessage} (hRequest : message.request = .connect request)
      (hInfo : ConnectInfo.ofMessage message.descriptor request = .ok info)
      (hTarget : server.handoffTarget? env info = none)
      (asks : Attach.AsksIn env server.options.defaults server.options.launch.headless 0 server.session info
        asking) : AsksIn env server message info asking
  | fellBack {request : ConnectMessage} {target : Clsid} {failure : Handoff.Error} {session : Session}
      {calls : List Call} (hRequest : message.request = .connect request)
      (hInfo : ConnectInfo.ofMessage message.descriptor request = .ok info)
      (hTarget : server.handoffTarget? env info = some target)
      (hAttempt : Handoff.attempt env server.transport.serverHandle target message.descriptor
        server.session = ⟨.error failure, session, calls⟩)
      (asks : Attach.AsksIn env server.options.defaults server.options.launch.headless (Call.issued calls).length
        session info asking) : AsksIn env server message info asking

variable {env : Environment} {server : Server} {message : Message} {request : ConnectMessage} {info : ConnectInfo}
  {asking s s' : Session} {capacity : Nat} {turns : List Turn} {turn : Turn}

theorem Follows.of_stays (follows : Follows capacity turns s) (stays : s.Stays s')
    (lent : s.histories.LentTo s.processes.pids) : Follows capacity turns s' where
  capacity_eq := stays.restored.capacity_eq.trans follows.capacity_eq
  fits := stays.restored.fits follows.fits
  named p hMem := by
    rw [stays.members_eq] at hMem
    obtain ⟨turn, hTurn, request, info, joins, named⟩ := follows.named p hMem
    refine ⟨turn, hTurn, request, info, joins, named.of_lends fun i b lends _ => ?_⟩
    exact (stays.restored.lends_iff lent).1 lends

theorem Follows.append (follows : Follows capacity turns s) (turn : Turn) :
    Follows capacity (turns ++ [turn]) s where
  capacity_eq := follows.capacity_eq
  fits := follows.fits
  named p hMem := by
    obtain ⟨earlier, hTurn, named⟩ := follows.named p hMem
    exact ⟨earlier, List.mem_append_left _ hTurn, named⟩

/-- A process that joins is named by its own turn, and the buffers of the others stay. -/
theorem Follows.of_gains (follows : Follows capacity turns s) {record : ProcessRecord} {token : Nat}
    (connects : turn.step.ConnectsAs request info) (gains : s.Gains info record s')
    (hToken : record.token = some token) (hShown : turn.connection? = some ⟨info.pid, token, true⟩)
    (lent : s.histories.LentTo s.processes.pids) : Follows capacity (turns ++ [turn]) s' where
  capacity_eq := by rw [gains.histories_eq, HistoryPool.capacity_request, follows.capacity_eq]
  fits := gains.histories_eq ▸ follows.fits.request
  named p hMem := by
    rw [gains.members_eq] at hMem
    rcases List.mem_append.1 hMem with hOld | hLast
    · obtain ⟨earlier, hTurn, before, told, joins, named⟩ := follows.named p hOld
      refine ⟨earlier, List.mem_append_left _ hTurn, before, told, joins, ?_⟩
      have hOther : p.pid ≠ info.pid := by
        intro hSame
        apply gains.pid_not_mem
        rw [← ProcessTable.pids_members, ← hSame]
        exact List.mem_map_of_mem hOld
      rw [gains.histories_eq]
      refine named.of_lends fun i b lends hOwner => (HistoryPool.lends_request_iff ?_).1 lends
      rw [hOwner]
      exact fun hSame => hOther (Option.some.inj hSame)
    · cases List.mem_singleton.1 hLast
      have joins : turn.Joins record request info :=
        ⟨connects, gains.pid_eq.symm, token, hToken, by rwa [gains.pid_eq]⟩
      refine ⟨turn, by simp, request, info, joins, ?_⟩
      rw [gains.histories_eq, gains.pid_eq]
      exact lent.namedFor_request gains.pid_not_mem

theorem Follows.of_loses (follows : Follows capacity turns s) {pid : UInt32} (loses : s.Loses pid s') :
    Follows capacity turns s' where
  capacity_eq := by rw [loses.histories_eq, HistoryPool.capacity_giveBack, follows.capacity_eq]
  fits := loses.histories_eq ▸ follows.fits.giveBack
  named p hMem := by
    rw [loses.members_eq] at hMem
    obtain ⟨turn, hTurn, request, info, joins, named⟩ :=
      follows.named p (ProcessTable.mem_records_of_mem_erase hMem)
    refine ⟨turn, hTurn, request, info, joins, named.of_lends fun i b lends _ => ?_⟩
    rw [loses.histories_eq] at lends
    exact lends.of_giveBack

theorem Turnover.follows (turnover : Turnover turn.step s s' turn.connection?) (consistent : s.Consistent)
    (follows : Follows capacity turns s) : Follows capacity (turns ++ [turn]) s' := by
  generalize hShown : turn.connection? = connection at turnover
  cases turnover with
  | stayed stays => exact (follows.of_stays stays consistent.lent).append turn
  | joined connects gains hToken => exact follows.of_gains connects gains hToken hShown consistent.lent
  | unheard stays => exact (follows.of_stays stays consistent.lent).append turn
  | left _ _ loses => exact (follows.of_loses loses).append turn
  | closed _ hRecords hHistories =>
      have hCapacity : s'.histories.capacity = s.histories.capacity :=
        hHistories ▸ HistoryPool.capacity_foldl_giveBack
      refine ⟨hCapacity.trans follows.capacity_eq, hHistories ▸ follows.fits.foldl_giveBack, fun p hMem => ?_⟩
      simp [ProcessTable.members, ProcessTable.setForeground, hRecords] at hMem

theorem Run.follows {first last : Server} (run : Run first turns last) (started : Started first)
    (hFirst : Follows capacity [] first.session) : Follows capacity turns last.session := by
  induction run with
  | idle => exact hFirst
  | @step turns middle prior step hStandard ih =>
      have consistent := prior.consistent started.consistent
      have turnover : Turnover (middle.turn step).step middle.session (middle.turn step).server.session
          (middle.turn step).connection? := by
        rw [step_turn]
        exact turnover_turn hStandard consistent
      exact turnover.follows consistent ih

/-! A connect request, from any server that was led to. -/

/-- No connect request takes a buffer from anybody. -/
theorem lends_connect (consistent : server.session.Consistent) (hRequest : message.request = .connect request)
    {i : Nat} {b : HistoryBuffer} (lends : server.session.histories.Lends i b) :
    (server.dispatch env message).server.session.histories.Lends i b := by
  have connects : Connects env server message request (server.dispatch env message) := connects_dispatch hRequest
  have turnover := connects.turnover consistent hRequest
  generalize Call.connection? _ = connection at turnover
  cases turnover with
  | stayed stays => exact (stays.restored.lends_iff consistent.lent).2 lends
  | joined _ gains =>
      rw [gains.histories_eq]
      exact consistent.lent.lends_request gains.pid_not_mem lends
  | unheard stays => exact (stays.restored.lends_iff consistent.lent).2 lends
  | left hStep hDisconnect =>
      cases hStep
      cases hRequest.symm.trans hDisconnect
  | closed hStep => cases hStep

theorem AsksIn.histories_eq (asks : AsksIn env server message info asking)
    (consistent : server.session.Consistent) : asking.histories = server.session.histories := by
  cases asks with
  | hosted _ _ _ asks => exact asks.histories_eq consistent.sound
  | fellBack _ _ hTarget hAttempt asks =>
      have sound := (consistent_attempt consistent hTarget hAttempt).sound
      exact (asks.histories_eq sound).trans (Handoff.histories_of_attempt hAttempt)

theorem AsksIn.pid_not_mem (asks : AsksIn env server message info asking) :
    info.pid ∉ server.session.processes.pids := by
  cases asks with
  | hosted _ _ _ asks => exact asks.pid_not_mem
  | fellBack _ _ _ hAttempt asks =>
      have hNew := asks.pid_not_mem
      rwa [Handoff.processes_of_attempt hAttempt] at hNew

/-- Who is connected has asked for a buffer. -/
theorem Hosts.asked {issued : Nat} {served : Served} {before : List Call} {pid : UInt32} {token : Nat}
    (hosts : Hosts env server issued message info served) (consistent : server.session.Consistent)
    (hBefore : Call.reaching before = [])
    (h : Call.connection? (before ++ served.calls) = some ⟨pid, token, true⟩) :
    info.pid = pid ∧ ∃ asking, Attach.AsksIn env server.options.defaults server.options.launch.headless issued
      server.session info asking ∧
      served.server.session.histories = (asking.requestHistory info.appName info.pid).histories := by
  cases hosts with
  | refused hAttach =>
      have ends := Attach.ends_of_run consistent hAttach
      rw [connection?_of_unpublished hBefore (ends.reaching_of_error consistent rfl)] at h
      cases h
  | delivered hAttach =>
      have ends := Attach.ends_of_run consistent hAttach
      rw [connection?_of_published hBefore (ends.reaching_of_ok consistent rfl)] at h
      cases h
      exact ⟨rfl, ends.asksIn_of_ok rfl⟩
  | undelivered hAttach =>
      have ends := Attach.ends_of_run consistent hAttach
      rw [connection?_of_published hBefore (ends.reaching_of_ok consistent rfl)] at h
      cases h

theorem asked_of_connection? {pid : UInt32} {token : Nat} (consistent : server.session.Consistent)
    (hRequest : message.request = .connect request)
    (h : Call.connection? (server.dispatch env message).calls = some ⟨pid, token, true⟩) :
    ∃ info asking, info.pid = pid ∧ AsksIn env server message info asking ∧
      (server.dispatch env message).server.session.histories =
        (asking.requestHistory info.appName info.pid).histories := by
  have connects : Connects env server message request (server.dispatch env message) := connects_dispatch hRequest
  generalize server.dispatch env message = served at connects h
  cases connects with
  | invalid => cases h
  | @hosted info hInfo hTarget =>
      have hosts : Hosts env server.counted 0 message info _ := hosts_hostLocally
      have hNothing : reaching [] = [] := rfl
      obtain ⟨hPid, asking, asks, hHistories⟩ := hosts.asked consistent hNothing h
      exact ⟨info, asking, hPid, .hosted hRequest hInfo hTarget asks, hHistories⟩
  | handedOver _ _ hAttempt =>
      rw [connection?_of_unpublished (Handoff.reaching_of_attempt hAttempt) rfl] at h
      cases h
  | @fellBack info target failure session calls _ hInfo hTarget hAttempt hServed =>
      subst hServed
      have hosts : Hosts env (server.declined target failure session) (Call.issued calls).length message info _ :=
        hosts_hostLocally
      obtain ⟨hPid, asking, asks, hHistories⟩ := hosts.asked (consistent_attempt consistent hTarget hAttempt)
        (Handoff.reaching_of_attempt hAttempt) h
      exact ⟨info, asking, hPid, .fellBack hRequest hInfo hTarget hAttempt asks, hHistories⟩

/-- What a connect request does about history buffers, of which there may be so many. -/
structure Grants (capacity : Nat) (env : Environment) (server : Server) (message : Message) : Prop where
  /-- Every buffer that was lent is lent as before, under the same name and to the same process. -/
  keeps : ∀ i b, server.session.histories.Lends i b →
    (server.dispatch env message).server.session.histories.Lends i b
  /-- A process that gets as far as to ask for a buffer finds those there were, and gets one exactly if fewer are lent
  than there may be. The others stay as they are. -/
  obtains : ∀ info asking, AsksIn env server message info asking →
    asking.histories = server.session.histories ∧
    ((∃ b ∈ (asking.requestHistory info.appName info.pid).histories.buffers, b.owner = some info.pid) ↔
      asking.histories.lentCount < capacity) ∧
    ∀ i b, asking.histories.Lends i b → (asking.requestHistory info.appName info.pid).histories.Lends i b
  /-- A process whose client is told that it is connected has asked, and has what it was given. -/
  asked : ∀ pid token, Call.connection? (server.dispatch env message).calls = some ⟨pid, token, true⟩ →
    ∃ info asking, info.pid = pid ∧ AsksIn env server message info asking ∧
      (server.dispatch env message).server.session.histories =
        (asking.requestHistory info.appName info.pid).histories

theorem Follows.grants (follows : Follows capacity turns server.session) (consistent : server.session.Consistent)
    (env : Environment) (hRequest : message.request = .connect request) :
    Grants capacity env server message where
  keeps _ _ lends := lends_connect consistent hRequest lends
  obtains info asking asks := by
    have hSame := asks.histories_eq consistent
    simp only [Session.requestHistory, hSame]
    refine ⟨trivial, ?_, fun i b lends => consistent.lent.lends_request asks.pid_not_mem lends⟩
    rw [consistent.lent.obtains_iff follows.fits asks.pid_not_mem, follows.capacity_eq]
  asked _ _ := asked_of_connection? consistent hRequest

/-- In every run of a server that may have so many history buffers, there are never more, only connected processes
have one and none has two, and the name of each is that of the application with which its process connected. From
there on a connect request gets a buffer exactly if fewer are lent, and takes none from anybody. -/
theorem histories_follow_connections {env : Environment} {options : Options} {capacity : Nat}
    {serverHandle : Option RawHandle} {first last : Server} {calls : List Call} {turns : List Turn}
    (hStart : start env options (.ofCapacity capacity) (.withServerHandle serverHandle) = (.ok first, calls))
    (run : Run first turns last) :
    last.session.histories.buffers.length ≤ capacity ∧
      last.session.histories.LentTo last.session.processes.pids ∧
      (∀ p ∈ last.session.processes.records, ∃ turn ∈ turns, ∃ request info, turn.Joins p request info ∧
        last.session.histories.NamedFor p.pid (Text.clipAtNul request.appName)) ∧
      ∀ env message request, message.request = .connect request → Grants capacity env last message := by
  have started : Started first := ⟨env, options, capacity, serverHandle, calls, hStart⟩
  have hFirst : Follows capacity [] first.session := by
    rw [start] at hStart
    split at hStart
    · cases hStart
    · cases hStart
      exact ⟨rfl, Nat.zero_le _, fun p hMem => by cases hMem⟩
  have follows := run.follows started hFirst
  have consistent := run.consistent started.consistent
  refine ⟨?_, consistent.lent, fun p hMem => ?_, fun env message request => follows.grants consistent env⟩
  · have hFits := follows.fits
    rwa [HistoryPool.Fits, follows.capacity_eq] at hFits
  · have hMember : { p with foreground := false } ∈ last.session.processes.members.records :=
      List.mem_map_of_mem hMem
    obtain ⟨turn, hTurn, request, info, joins, named⟩ := follows.named _ hMember
    obtain ⟨env, message, -, -, hInfo⟩ := joins.connects
    rw [(ConnectInfo.copies_of_ofMessage hInfo).appName_eq] at named
    exact ⟨turn, hTurn, request, info, ⟨joins.connects, joins.pid_eq, joins.shown⟩, named⟩

/-- There may be one history buffer only. -/
def scarce : Server := { begun with session := .fresh (.ofCapacity 1) false (some (StandIn.event 0)) }

/-- A process has the only buffer, and the next one is connected without any. -/
theorem histories_follow_connections_scarce :
    ((scarce.follow [.dispatch quiet (connecting 7)]).dispatch quiet (connecting 9)).server.session.processes.pids =
        [7, 9] ∧
      ∀ info asking, AsksIn quiet (scarce.follow [.dispatch quiet (connecting 7)]) (connecting 9) info asking →
        ∀ b ∈ (asking.requestHistory info.appName info.pid).histories.buffers, b.owner ≠ some info.pid := by
  have hStart : start quiet begun.options (.ofCapacity 1) (.withServerHandle none) =
      (.ok scarce, [.createEvent (some (StandIn.event 0))]) := rfl
  have hStandard : ∀ step ∈ [Step.dispatch quiet (connecting 7)], step.Standard := standard_quiet (by simp)
  have hLent : (scarce.follow [.dispatch quiet (connecting 7)]).session.histories.lentCount = 1 := by decide
  obtain ⟨-, -, -, grants⟩ := histories_follow_connections hStart (Run.idle.follow hStandard)
  refine ⟨by decide, fun info asking asks b hMem hOwner => ?_⟩
  obtain ⟨hSame, hObtains, -⟩ := (grants quiet (connecting 9) _ rfl).obtains info asking asks
  have hRoom := hObtains.1 ⟨b, hMem, hOwner⟩
  rw [hSame, hLent] at hRoom
  exact Nat.lt_irrefl 1 hRoom

end Server

end ConsoleHost
