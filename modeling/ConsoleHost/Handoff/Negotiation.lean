import ConsoleHost.Environment
import ConsoleHost.Signal

/-!
The exchange with a handoff handler. It is a chain of steps that can each fail. Whatever was issued on
the way is closed again: on failure everything, on acceptance the copies of what the handler received.
-/

namespace ConsoleHost.Handoff

/-- What an accepted offer leaves to this process. -/
structure Established where
  /-- The process that represents the session from now on. -/
  representative : RawHandle
  /-- The end of the signal pipe that this process reads. -/
  signals : ByteSource

/-- The outcome of an exchange and the calls it made. -/
structure Negotiation where
  outcome : Except Error Established
  calls : List Call

/-- Offer a session to the handler that is registered under `target`. The null handle stands for a wake
event that is not there. The handles of this request are numbered from zero: pipe, process,
representative. -/
def negotiate (env : Environment) (serverHandle : Option RawHandle) (target : Clsid)
    (descriptor : Descriptor) (wakeEvent : RawHandle) : Negotiation :=
  match env.activate target with
  | .error reason => ⟨.error (.activation reason), [.activate target false]⟩
  | .ok () =>
    match serverHandle with
    | none =>
      ⟨.error (.serverHandle .noServerHandle), [.activate target true, .serverHandle none]⟩
    | some server =>
      let found := [.activate target true, .serverHandle (some server)]
      match env.system.createPipe with
      | .error failure => ⟨.error (.system failure), found ++ [.createPipe none]⟩
      | .ok signals =>
        let pipe := env.system.issue 0
        match env.system.duplicateProcess with
        | .error failure =>
          ⟨.error (.system failure),
            found ++ [.createPipe (some pipe), .duplicateProcess none, .close pipe]⟩
        | .ok () =>
          let process := env.system.issue 1
          let offer : Offer := ⟨server, wakeEvent, .ofDescriptor descriptor, pipe, process⟩
          let offered := found ++
            [.createPipe (some pipe), .duplicateProcess (some process), .offer offer]
          match env.takeOver offer with
          | .error reason =>
            ⟨.error (.rejected reason), offered ++ [.close process, .close pipe]⟩
          | .ok () =>
            let representative := env.system.issue 2
            ⟨.ok ⟨representative, signals⟩,
              offered ++ [.representative representative, .close pipe, .close process]⟩

/-- An attempt to hand a session over: its outcome, the session after it, and the calls it made. -/
structure Attempt where
  outcome : Except Error RawHandle
  session : Session
  calls : List Call

/-- Negotiate, and on acceptance give the wake event away and start the relay. The relay makes its calls
before anything else is called. On failure nothing of the session has changed except, where the relay
did not start, the wake event. -/
def attempt (env : Environment) (serverHandle : Option RawHandle) (target : Clsid)
    (descriptor : Descriptor) (session : Session) : Attempt :=
  let exchange :=
    negotiate env serverHandle target descriptor (session.wakeEvent.getD RawHandle.null)
  match exchange.outcome with
  | .error failure => ⟨.error failure, session, exchange.calls⟩
  | .ok established =>
    let calls := exchange.calls ++ session.wakeEvent.toList.map Call.close
    let session := { session with wakeEvent := none }
    match env.startRelay with
    | .error reason =>
      ⟨.error (.relay reason), session,
        calls ++ [.startRelay false, .close established.representative]⟩
    | .ok () =>
      ⟨.ok established.representative, session,
        calls ++ .startRelay true :: env.controlCalls 0 (Signal.relayed established.signals)⟩

end ConsoleHost.Handoff
