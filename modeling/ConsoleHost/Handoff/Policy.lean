import ConsoleHost.Connect

/-!
Whether a new session is offered to a registered terminal. The conditions are all known before anything
is changed; the first of them that does not hold is the reason for hosting locally.
-/

namespace ConsoleHost.Handoff

structure Launch where
  /-- Behind a pseudo-console, without a window. -/
  headless : Bool
  /-- Started to host a session itself. -/
  hostHere : Bool
  /-- Handing sessions over was switched off. -/
  disabled : Bool
  /-- Started by another console as the target of its handoff. -/
  isTarget : Bool
  deriving DecidableEq

structure Conditions where
  interactiveSession : Bool
  handoffDisabled : Bool
  forceLocal : Bool
  sessionInitialized : Bool
  consoleApp : Bool
  headless : Bool
  targetRegistered : Bool
  isHandoffTarget : Bool
  windowVisible : Bool
  hiddenWindowRequested : Bool
  deriving DecidableEq

/-- The conditions of a connect request in a session. -/
def Conditions.forConnect (info : ConnectInfo) (launch : Launch)
    (interactive initialized targetRegistered : Bool) : Conditions where
  interactiveSession := interactive
  handoffDisabled := launch.disabled
  forceLocal := launch.hostHere
  sessionInitialized := initialized
  consoleApp := info.consoleApp
  headless := launch.headless
  targetRegistered := targetRegistered
  isHandoffTarget := launch.isTarget
  windowVisible := info.windowVisible
  hiddenWindowRequested := info.requestsHiddenWindow

inductive Decline where
  | notInteractive
  | disabled
  | forcedLocal
  | alreadyInitialized
  | attachOnly
  | headless
  | noTarget
  | alreadyTarget
  | noVisibleWindow
  | hiddenWindow
  deriving DecidableEq

def Decline.message : Decline → String
  | notInteractive => "session is not interactive"
  | disabled => "handoff disabled by launch argument"
  | forcedLocal => "local hosting requested"
  | alreadyInitialized => "session already initialized"
  | attachOnly => "attach to existing console"
  | headless => "headless session"
  | noTarget => "no handoff target registered"
  | alreadyTarget => "already a handoff target"
  | noVisibleWindow => "client has no window"
  | hiddenWindow => "client starts hidden or minimized"

/-- The first reason against offering the session, if there is one. -/
def Conditions.decline? (c : Conditions) : Option Decline :=
  if c.interactiveSession = false then some .notInteractive
  else if c.handoffDisabled then some .disabled
  else if c.forceLocal then some .forcedLocal
  else if c.sessionInitialized then some .alreadyInitialized
  else if c.consoleApp = false then some .attachOnly
  else if c.headless then some .headless
  else if c.targetRegistered = false then some .noTarget
  else if c.isHandoffTarget then some .alreadyTarget
  else if c.windowVisible = false then some .noVisibleWindow
  else if c.hiddenWindowRequested then some .hiddenWindow
  else none

/-- Nothing speaks against offering the session exactly when the five conditions for it hold and the
five against it do not. -/
theorem Conditions.decline?_eq_none_iff (c : Conditions) :
    c.decline? = none ↔
      c = { interactiveSession := true, handoffDisabled := false, forceLocal := false,
            sessionInitialized := false, consoleApp := true, headless := false,
            targetRegistered := true, isHandoffTarget := false, windowVisible := true,
            hiddenWindowRequested := false } := by
  obtain ⟨i, d, f, s, a, h, t, g, w, x⟩ := c
  cases i <;> cases d <;> cases f <;> cases s <;> cases a <;> simp [decline?]
  cases h <;> cases t <;> cases g <;> cases w <;> cases x <;> simp

end ConsoleHost.Handoff
