import ConsoleHost.Handoff.Negotiation

/-! What an exchange with a handoff handler, and an attempt to hand the session over, can end in. -/

namespace ConsoleHost.Handoff

variable (env : Environment) (serverHandle : Option RawHandle) (target : Clsid) (descriptor : Descriptor)

/-- The offer that a handler gets once the pipe and the process handle have been issued. -/
def offerOf (server wakeEvent : RawHandle) : Offer :=
  ⟨server, wakeEvent, .ofDescriptor descriptor, env.system.issue 0, env.system.issue 1⟩

/-- Everything that an exchange can end in, by the step that fails. -/
inductive Negotiates (wakeEvent : RawHandle) : Negotiation → Prop where
  | unregistered {reason : String} (hActivate : env.activate target = .error reason) :
      Negotiates wakeEvent ⟨.error (.activation reason), [.activate target false]⟩
  | noServer (hActivate : env.activate target = .ok ()) (hServer : serverHandle = none) :
      Negotiates wakeEvent
        ⟨.error (.serverHandle .noServerHandle), [.activate target true, .serverHandle none]⟩
  | noPipe {server : RawHandle} {failure : SystemError} (hActivate : env.activate target = .ok ())
      (hServer : serverHandle = some server) (hPipe : env.system.createPipe = .error failure) :
      Negotiates wakeEvent
        ⟨.error (.system failure),
          [.activate target true, .serverHandle (some server), .createPipe none]⟩
  | noProcess {server : RawHandle} {signals : ByteSource} {failure : SystemError}
      (hActivate : env.activate target = .ok ()) (hServer : serverHandle = some server)
      (hPipe : env.system.createPipe = .ok signals)
      (hProcess : env.system.duplicateProcess = .error failure) :
      Negotiates wakeEvent
        ⟨.error (.system failure),
          [.activate target true, .serverHandle (some server),
            .createPipe (some (env.system.issue 0)), .duplicateProcess none,
            .close (env.system.issue 0)]⟩
  | refused {server : RawHandle} {signals : ByteSource} {reason : String}
      (hActivate : env.activate target = .ok ()) (hServer : serverHandle = some server)
      (hPipe : env.system.createPipe = .ok signals) (hProcess : env.system.duplicateProcess = .ok ())
      (hOffer : env.takeOver (offerOf env descriptor server wakeEvent) = .error reason) :
      Negotiates wakeEvent
        ⟨.error (.rejected reason),
          [.activate target true, .serverHandle (some server),
            .createPipe (some (env.system.issue 0)), .duplicateProcess (some (env.system.issue 1)),
            .offer (offerOf env descriptor server wakeEvent), .close (env.system.issue 1),
            .close (env.system.issue 0)]⟩
  | accepted {server : RawHandle} {signals : ByteSource} (hActivate : env.activate target = .ok ())
      (hServer : serverHandle = some server) (hPipe : env.system.createPipe = .ok signals)
      (hProcess : env.system.duplicateProcess = .ok ())
      (hOffer : env.takeOver (offerOf env descriptor server wakeEvent) = .ok ()) :
      Negotiates wakeEvent
        ⟨.ok ⟨env.system.issue 2, signals⟩,
          [.activate target true, .serverHandle (some server),
            .createPipe (some (env.system.issue 0)), .duplicateProcess (some (env.system.issue 1)),
            .offer (offerOf env descriptor server wakeEvent), .representative (env.system.issue 2),
            .close (env.system.issue 0), .close (env.system.issue 1)]⟩

theorem negotiates_negotiate (wakeEvent : RawHandle) :
    Negotiates env serverHandle target descriptor wakeEvent
      (negotiate env serverHandle target descriptor wakeEvent) := by
  simp only [negotiate]
  split
  · next hActivate => exact .unregistered hActivate
  · next hActivate =>
      cases serverHandle with
      | none => exact .noServer hActivate rfl
      | some server =>
          dsimp only
          split
          · next hPipe => exact .noPipe hActivate rfl hPipe
          · next hPipe =>
              split
              · next hProcess => exact .noProcess hActivate rfl hPipe hProcess
              · next hProcess =>
                  split
                  · next hOffer => exact .refused hActivate rfl hPipe hProcess hOffer
                  · next hOffer => exact .accepted hActivate rfl hPipe hProcess hOffer

/-- Everything that an attempt can end in. Only an accepted offer gives the wake event away. -/
inductive Attempts (s : Session) : Attempt → Prop where
  | failed {failure : Error} {calls : List Call}
      (hExchange : negotiate env serverHandle target descriptor (s.wakeEvent.getD .null) =
        ⟨.error failure, calls⟩) :
      Attempts s ⟨.error failure, s, calls⟩
  | unrelayed {established : Established} {calls : List Call} {reason : String}
      (hExchange : negotiate env serverHandle target descriptor (s.wakeEvent.getD .null) =
        ⟨.ok established, calls⟩)
      (hRelay : env.startRelay = .error reason) :
      Attempts s
        ⟨.error (.relay reason), { s with wakeEvent := none },
          calls ++ s.wakeEvent.toList.map Call.close ++
            [.startRelay false, .close established.representative]⟩
  | relayed {established : Established} {calls : List Call}
      (hExchange : negotiate env serverHandle target descriptor (s.wakeEvent.getD .null) =
        ⟨.ok established, calls⟩)
      (hRelay : env.startRelay = .ok ()) :
      Attempts s
        ⟨.ok established.representative, { s with wakeEvent := none },
          calls ++ s.wakeEvent.toList.map Call.close ++
            .startRelay true :: env.controlCalls 0 (Signal.relayed established.signals)⟩

variable {env serverHandle target descriptor}

theorem attempts_of_attempt {s : Session} {result : Attempt}
    (h : attempt env serverHandle target descriptor s = result) :
    Attempts env serverHandle target descriptor s result := by
  subst h
  rcases hExchange : negotiate env serverHandle target descriptor (s.wakeEvent.getD .null) with
    ⟨failure | established, calls⟩
  · simp only [attempt, hExchange]
    exact .failed hExchange
  · simp only [attempt, hExchange]
    split
    · next hRelay => exact .unrelayed hExchange hRelay
    · next hRelay => exact .relayed hExchange hRelay

/-- The relay is not started before the exchange is over. -/
theorem Negotiates.ne_relay {wakeEvent : RawHandle} {failure : Error} {calls : List Call}
    (negotiates : Negotiates env serverHandle target descriptor wakeEvent ⟨.error failure, calls⟩)
    (reason : String) : failure ≠ .relay reason := by
  cases negotiates <;> simp

/-! Whatever becomes of it, an exchange begins with the activation of the handler. -/

theorem Negotiates.activates {wakeEvent : RawHandle} {exchange : Negotiation}
    (negotiates : Negotiates env serverHandle target descriptor wakeEvent exchange) :
    ∃ succeeded, .activate target succeeded ∈ exchange.calls := by
  cases negotiates <;> exact ⟨_, List.mem_cons_self ..⟩

theorem Attempts.activates {s : Session} {result : Attempt}
    (attempts : Attempts env serverHandle target descriptor s result) :
    ∃ succeeded, .activate target succeeded ∈ result.calls := by
  have hExchange := (negotiates_negotiate env serverHandle target descriptor
    (s.wakeEvent.getD .null)).activates
  cases attempts with
  | failed hEnd => rwa [hEnd] at hExchange
  | unrelayed hEnd =>
      rw [hEnd] at hExchange
      exact hExchange.imp fun _ hMem => List.mem_append_left _ (List.mem_append_left _ hMem)
  | relayed hEnd =>
      rw [hEnd] at hExchange
      exact hExchange.imp fun _ hMem => List.mem_append_left _ (List.mem_append_left _ hMem)

end ConsoleHost.Handoff
