import ConsoleHost.Call

/-!
What recording collaborators have seen after a number of calls. Everything here is a view of the calls
themselves.
-/

namespace ConsoleHost.Record

def controlText : ControlRequest → String
  | .notifyApp pid => "notify " ++ toString pid.toNat
  | .setForeground pid on =>
    "foreground " ++ toString pid.toNat ++ (if on then " true" else " false")
  | .endTask pid eventType flags =>
    "end_task " ++ toString pid.toNat ++ " " ++ toString eventType.toNat ++ " " ++
      toString flags.toNat

def controls (calls : List Call) : List String :=
  calls.filterMap fun
    | .control request _ => some (controlText request)
    | _ => none

def applicationEventText (event : ApplicationEvent) (pid : UInt32) : String :=
  (match event with
    | .started => "start "
    | .ended => "end ") ++ toString pid.toNat

/-- The accessibility events that got through. -/
def accessibilityEvents (calls : List Call) : List String :=
  calls.filterMap fun
    | .accessibility event pid true => some (applicationEventText event pid)
    | _ => none

def windows (calls : List Call) : Nat :=
  calls.countP fun call => call matches .createWindow ..

def activations (calls : List Call) : Nat :=
  calls.countP fun call => call matches .activate ..

/-- What the handoff handler was given last, whether or not it accepted. -/
def lastOffer? (calls : List Call) : Option Handoff.Offer :=
  (calls.filterMap fun
    | .offer offer => some offer
    | _ => none).getLast?

def eventsCreated (calls : List Call) : Nat :=
  calls.countP fun call => call matches .createEvent (some _)

def waits (calls : List Call) : Nat :=
  calls.countP fun call => call matches .waitForExit _

/-- How many handles are issued and not closed. -/
def openHandles (calls : List Call) : Nat :=
  ((Call.issued calls).filter fun h => h ∉ Call.closed calls).length

end ConsoleHost.Record
