import ConsoleHost.Connect
import ConsoleHost.Environment

/-!
Bringing a session up for the first process that connects: the wake event, the input endpoint, the main
output buffer, the title and the window.
-/

namespace ConsoleHost

structure SessionDefaults where
  bufferSize : Size
  windowSize : Size
  title : String
  deriving DecidableEq

def SessionDefaults.standard : SessionDefaults := ⟨⟨120, 9001⟩, ⟨120, 30⟩, "Console"⟩

namespace BringUp

/-- The first of the title and the application name that is not empty, or the default title. -/
def title (defaults : SessionDefaults) (info : ConnectInfo) : String :=
  if info.title ≠ "" then info.title
  else if info.appName ≠ "" then info.appName
  else defaults.title

def bufferSize (defaults : SessionDefaults) (info : ConnectInfo) : Size :=
  info.bufferSize.orElse defaults.bufferSize

/-- The window never exceeds the buffer. -/
def windowSize (defaults : SessionDefaults) (info : ConnectInfo) : Size :=
  (info.windowSize.orElse defaults.windowSize).clamp (bufferSize defaults info)

/-- A step of bring-up: whether it succeeded, the session after it, and the calls it made. -/
structure Outcome where
  result : Except Refusal Unit
  session : Session
  calls : List Call

/-- Make sure that the session holds a wake event. One that was given away is replaced. -/
def holdWakeEvent (system : System) (issued : Nat) (session : Session) :
    Except Refusal RawHandle × List Call :=
  match session.wakeEvent with
  | some event => (.ok event, [])
  | none =>
    match system.createEvent with
    | .error failure => (.error (.bringUpFailed failure.message), [.createEvent none])
    | .ok () =>
      let event := system.issue issued
      (.ok event, [.createEvent (some event)])

/-- Ask for a window, unless the session is headless. -/
def openWindow (env : Environment) (headless : Bool) (title : String) (size : Size) :
    Except Refusal Unit × List Call :=
  if headless then (.ok (), [])
  else
    match env.createWindow title size with
    | .error failure => (.error (.bringUpFailed failure.message), [.createWindow title size false])
    | .ok () => (.ok (), [.createWindow title size true])

/-- Bring the session up, after `issued` handles have been issued for the request. A session that is up
is left alone. If no window can be had, the two endpoints are let go again and the session stays down,
but it keeps its wake event. -/
def run (env : Environment) (defaults : SessionDefaults) (headless : Bool) (issued : Nat)
    (session : Session) (info : ConnectInfo) : Outcome :=
  if session.initialized then ⟨.ok (), session, []⟩
  else
    match holdWakeEvent env.system issued session with
    | (.error refusal, calls) => ⟨.error refusal, session, calls⟩
    | (.ok event, calls) =>
      let title := title defaults info
      let window := windowSize defaults info
      let input := session.registry.nextObject
      let withInput := session.registry.create (.input event) true
      let output := withInput.nextObject
      let registry := withInput.create (.output (bufferSize defaults info) window) true
      match openWindow env headless title window with
      | (.error refusal, more) =>
        ⟨.error refusal,
          { session with
            wakeEvent := some event
            registry := (registry.unpin input).unpin output },
          calls ++ more⟩
      | (.ok (), more) =>
        ⟨.ok (),
          { session with
            initialized := true
            wakeEvent := some event
            registry := registry
            input := some input
            activeOutput := some output
            title := title },
          calls ++ more⟩

end BringUp

end ConsoleHost
