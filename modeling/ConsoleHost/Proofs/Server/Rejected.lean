import ConsoleHost.Proofs.Server.Stable

/-! Requests that are rejected. Whatever can be wrong with a request is found before the first thing is done for it, so
that the session and the transport are as if it had not come, and no collaborator hears of it. -/

namespace ConsoleHost.Server

/-- A request that is rejected: nothing can be opened or closed for it, its connect message is invalid, its process is
connected already, or its token addresses nobody. -/
inductive Rejects (env : Environment) (server : Server) (message : Message) : Prop where
  | create {request : CreateRequest} {reply : Reply} (hRequest : message.request = .create request)
      (hReply : (server.dispatch env message).completion = .reply reply) (hStatus : reply.status ≠ .success) :
      Rejects env server message
  | close {reply : Reply} (hRequest : message.request = .close)
      (hReply : (server.dispatch env message).completion = .reply reply) (hStatus : reply.status ≠ .success) :
      Rejects env server message
  | invalid {request : ConnectMessage} {refusal : Refusal} (hRequest : message.request = .connect request)
      (hInfo : ConnectInfo.ofMessage message.descriptor request = .error refusal) : Rejects env server message
  | known {request : ConnectMessage} {info : ConnectInfo} (hRequest : message.request = .connect request)
      (hInfo : ConnectInfo.ofMessage message.descriptor request = .ok info)
      (hKnown : info.pid ∈ server.session.processes.pids) : Rejects env server message
  | api {call : ApiCall} (hRequest : message.request = .api call)
      (hNobody : server.session.processes.findByToken? message.descriptor.processToken = none) :
      Rejects env server message
  | disconnect (hRequest : message.request = .disconnect)
      (hNobody : server.session.processes.findByToken? message.descriptor.processToken = none) :
      Rejects env server message

/-- Serving a request changed nothing but what telemetry has counted. No call was made, and the reply is left to the
caller. -/
structure Untouched (server : Server) (served : Served) : Prop where
  server_eq : served.server = { server with telemetry := served.server.telemetry }
  calls_eq : served.calls = []
  completion_eq : ∃ reply, served.completion = .reply reply

variable {env : Environment} {server : Server} {message : Message}

theorem untouched_create {request : CreateRequest} {reply : Reply} (sound : server.session.registry.Sound)
    (hReply : (server.create message request).completion = .reply reply) :
    Untouched server (server.create message request) := by
  obtain ⟨refusal, hOpen⟩ | ⟨session, hOpen, -⟩ := Session.openObject_cases sound request
  · simp only [create, hOpen]
    exact ⟨rfl, rfl, _, rfl⟩
  · simp only [create, hOpen] at hReply
    cases hReply

theorem untouched_close {reply : Reply} (hReply : (server.close message).completion = .reply reply)
    (hStatus : reply.status ≠ .success) : Untouched server (server.close message) := by
  cases hHandle : server.session.registry.handle? message.descriptor.handle with
  | none =>
      simp only [close, Registry.closeHandle_of_not_open hHandle]
      exact ⟨rfl, rfl, _, rfl⟩
  | some h =>
      simp only [close, Registry.closeHandle_of_open hHandle] at hReply
      cases hReply
      exact absurd rfl hStatus

/-- A process that is connected already gets as far as its record. That the session is offered to nobody before is due
to its being up. -/
theorem untouched_connect_of_known {request : ConnectMessage} {info : ConnectInfo}
    (consistent : server.session.Consistent)
    (hInfo : ConnectInfo.ofMessage message.descriptor request = .ok info)
    (hKnown : info.pid ∈ server.session.processes.pids) :
    Untouched server (server.connect env message request) := by
  obtain ⟨record, hMem, -⟩ := List.mem_map.1 hKnown
  have hUp := consistent.initialized_of_mem hMem
  have hAttach : Attach.run env server.counted.options.defaults server.counted.options.launch.headless 0
      server.counted.session server.counted.transport info =
        ⟨.error (.alreadyConnected info.pid), server.counted.session, server.counted.transport, []⟩ :=
    Attach.run_of_known hKnown
  rw [connect_of_hosted hInfo (handoffTarget?_of_initialized hUp info)]
  simp only [hostLocally, hAttach]
  exact ⟨rfl, rfl, _, rfl⟩

theorem Rejects.untouched (rejects : Rejects env server message) (consistent : server.session.Consistent) :
    Untouched server (server.dispatch env message) := by
  cases rejects with
  | create hRequest hReply =>
      simp only [dispatch, hRequest] at hReply ⊢
      exact untouched_create consistent.sound hReply
  | close hRequest hReply hStatus =>
      simp only [dispatch, hRequest] at hReply ⊢
      exact untouched_close hReply hStatus
  | invalid hRequest hInfo =>
      simp only [dispatch, hRequest, connect_of_invalid hInfo]
      exact ⟨rfl, rfl, _, rfl⟩
  | known hRequest hInfo hKnown =>
      simp only [dispatch, hRequest]
      exact untouched_connect_of_known consistent hInfo hKnown
  | api hRequest hNobody =>
      simp only [dispatch, hRequest, Server.api, hNobody]
      exact ⟨rfl, rfl, _, rfl⟩
  | disconnect hRequest hNobody =>
      simp only [dispatch, hRequest, Server.disconnect, hNobody]
      exact ⟨rfl, rfl, _, rfl⟩

/-- A request that is rejected leaves the session, the transport and everything else of a running server exactly as
they were, and calls nobody. In particular no create request is rejected after a buffer was created for it: whatever
access it asks for, the buffer can be opened. -/
theorem rejected_untouched (reachable : Reachable server) :
    (∀ env message, Rejects env server message → Untouched server (server.dispatch env message)) ∧
      ∀ buffer window access share, ∃ opened,
        (server.session.registry.create (.output buffer window) false).openHandle server.session.registry.nextObject
          access share = (.ok server.session.registry.nextHandle, opened) := by
  have consistent := reachable.consistent
  exact ⟨fun env message rejects => rejects.untouched consistent, fun buffer window access share =>
    consistent.sound.openHandle_create (.output buffer window) false access share⟩

/-- Before anybody is connected no buffer can be opened. Afterwards a process cannot connect twice, a handle that is
not open cannot be closed, and a process identifier is no token. -/
theorem rejected_untouched_populated :
    Untouched begun (begun.dispatch quiet creating) ∧
      Untouched populated (populated.dispatch quiet (connecting 7)) ∧
      Untouched populated (populated.dispatch quiet ⟨⟨3, 0, 9, 0, 0, 0⟩, .close⟩) ∧
      Untouched populated (populated.dispatch quiet ⟨⟨4, 7, 0, 0, 0, 0⟩, .disconnect⟩) := by
  have hPopulated : Reachable populated := reachable_quiet (by simp)
  obtain ⟨early, -⟩ := rejected_untouched started_begun.reachable
  obtain ⟨later, -⟩ := rejected_untouched hPopulated
  refine ⟨early _ _ (.create rfl rfl ?_), later _ _ (.known rfl rfl ?_), later _ _ (.close rfl rfl ?_),
    later _ _ (.disconnect rfl ?_)⟩
  all_goals decide

end ConsoleHost.Server
