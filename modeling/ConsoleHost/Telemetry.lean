import ConsoleHost.Clsid
import ConsoleHost.Handoff.Offer

/-!
Usage telemetry: how often clients attached and left, and how handoffs ended.
-/

namespace ConsoleHost

inductive CountedCall where
  | attachConsole
  | freeConsole
  deriving DecidableEq

inductive HandoffReport where
  | succeeded (target : Clsid)
  | failed (target : Clsid) (error : Handoff.Error)
  deriving DecidableEq

def HandoffReport.fields : HandoffReport → List (String × String)
  | succeeded target =>
    [("event", "ConsoleHandoffSucceeded"), ("clsid", target.text),
     ("message", "successfully handed off console connection")]
  | failed target error =>
    [("event", "ConsoleHandoffFailed"), ("clsid", target.text), ("error", error.message),
     ("message", "failed while attempting handoff")]

structure Telemetry where
  attachConsole : UInt32
  freeConsole : UInt32
  /-- Reports so far, oldest first. -/
  reports : List HandoffReport
  deriving DecidableEq

namespace Telemetry

def empty : Telemetry := ⟨0, 0, []⟩

/-- Count a call. The counters are 32-bit words. -/
def count (t : Telemetry) : CountedCall → Telemetry
  | .attachConsole => { t with attachConsole := t.attachConsole + 1 }
  | .freeConsole => { t with freeConsole := t.freeConsole + 1 }

def report (t : Telemetry) (r : HandoffReport) : Telemetry :=
  { t with reports := t.reports ++ [r] }

end Telemetry

end ConsoleHost
