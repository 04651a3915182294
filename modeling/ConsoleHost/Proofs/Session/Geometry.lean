import ConsoleHost.Proofs.Hosting
import ConsoleHost.Proofs.Registry.Every
import ConsoleHost.Proofs.Session.Admission
import ConsoleHost.Proofs.Session.Open
import ConsoleHost.Proofs.Session.Persists

/-! The sizes and the title with which a session is brought up. Buffer and window each follow the hint of the client
or the default, and the window is then cut to the buffer, whichever of the two came from whom. -/

namespace ConsoleHost

namespace Size

def NonEmpty (s : Size) : Prop := s.width ≠ 0 ∧ s.height ≠ 0

instance (s : Size) : Decidable s.NonEmpty := inferInstanceAs (Decidable (_ ∧ _))

/-- Neither dimension exceeds that of the other. -/
def Fits (s bound : Size) : Prop := s.width ≤ bound.width ∧ s.height ≤ bound.height

/-- The size that comes of a hint: the hint itself if it has a column and a row, and the fallback otherwise. -/
structure Chosen (hint fallback chosen : Size) : Prop where
  of_nonEmpty : hint.NonEmpty → chosen = hint
  of_not_nonEmpty : ¬hint.NonEmpty → chosen = fallback

variable {s hint fallback chosen bound : Size}

theorem isEmpty_eq_false_iff : s.isEmpty = false ↔ s.NonEmpty := by
  simp [isEmpty, NonEmpty]

theorem chosen_orElse : Chosen hint fallback (hint.orElse fallback) := by
  rw [orElse]
  split
  · next hEmpty =>
      refine ⟨fun hNonEmpty => ?_, fun _ => rfl⟩
      cases hEmpty.symm.trans (isEmpty_eq_false_iff.2 hNonEmpty)
  · next hFull =>
      exact ⟨fun _ => rfl, fun hEmpty => absurd (isEmpty_eq_false_iff.1 (Bool.eq_false_iff.2 hFull)) hEmpty⟩

/-- A size that is chosen from a hint is not empty if the fallback is not. -/
theorem Chosen.nonEmpty (h : Chosen hint fallback chosen) (hFallback : fallback.NonEmpty) : chosen.NonEmpty := by
  by_cases hHint : hint.NonEmpty
  · rwa [h.of_nonEmpty hHint]
  · rwa [h.of_not_nonEmpty hHint]

/-- A clamped size fits into its bound. -/
theorem clamp_fits : (s.clamp bound).Fits bound := ⟨Std.min_le_right, Std.min_le_right⟩

/-- Clamping keeps a size from being empty. -/
theorem NonEmpty.clamp (h : s.NonEmpty) (hBound : bound.NonEmpty) : (s.clamp bound).NonEmpty := by
  have hMin {m n : UInt16} (hm : m ≠ 0) (hn : n ≠ 0) : min m n ≠ 0 := by
    rw [Std.min_eq_if]
    split
    · exact hm
    · exact hn
  exact ⟨hMin h.1 hBound.1, hMin h.2 hBound.2⟩

end Size

namespace BringUp

/-- The sizes and the title of a session that is brought up for a client. -/
structure Geometry (defaults : SessionDefaults) (info : ConnectInfo) (buffer window : Size) (title : String) :
    Prop where
  buffer_chosen : Size.Chosen info.bufferSize defaults.bufferSize buffer
  window_cut : ∃ asked, Size.Chosen info.windowSize defaults.windowSize asked ∧
    window.width = min asked.width buffer.width ∧ window.height = min asked.height buffer.height
  title_eq : title = ([info.title, info.appName, defaults.title].find? (· ≠ "")).getD ""

variable {defaults : SessionDefaults} {info : ConnectInfo}

/-- Bring-up computes the sizes and the title as the hints and the defaults ask. -/
theorem geometry (defaults : SessionDefaults) (info : ConnectInfo) :
    Geometry defaults info (bufferSize defaults info) (windowSize defaults info) (title defaults info) where
  buffer_chosen := Size.chosen_orElse
  window_cut := ⟨_, Size.chosen_orElse, rfl, rfl⟩
  title_eq := by
    by_cases hTitle : info.title = ""
    · by_cases hName : info.appName = ""
      · by_cases hDefault : defaults.title = "" <;> simp [title, hTitle, hName, hDefault]
      · simp [title, hTitle, hName]
    · simp [title, hTitle]

end BringUp

/-- What holds of the sizes of every output buffer of a session with these defaults. -/
def Endpoint.Framed (defaults : SessionDefaults) : Endpoint → Prop
  | input _ => True
  | output buffer window =>
    window.Fits buffer ∧
      (defaults.bufferSize.NonEmpty → defaults.windowSize.NonEmpty → buffer.NonEmpty ∧ window.NonEmpty)

/-- The first output endpoint has its window within its buffer. -/
theorem BringUp.framed (defaults : SessionDefaults) (info : ConnectInfo) :
    (Endpoint.output (bufferSize defaults info) (windowSize defaults info)).Framed defaults := by
  refine ⟨Size.clamp_fits, fun hBuffer hWindow => ?_⟩
  have hChosen : (bufferSize defaults info).NonEmpty := Size.chosen_orElse.nonEmpty hBuffer
  exact ⟨hChosen, (Size.chosen_orElse.nonEmpty hWindow).clamp hChosen⟩

namespace Call

def window? : Call → Option (String × Size × Bool)
  | createWindow title size succeeded => some (title, size, succeeded)
  | _ => none

/-- The windows that the window host is asked for, with its answers. -/
def windows (calls : List Call) : List (String × Size × Bool) := calls.filterMap window?

theorem windows_append (first second : List Call) : windows (first ++ second) = windows first ++ windows second :=
  List.filterMap_append

/-- Calls that raise no window ask for none. -/
theorem windows_eq_nil {calls : List Call} (h : ∀ call ∈ calls, call.raises = false) : windows calls = [] := by
  apply List.filterMap_eq_nil_iff.2
  intro call hMem
  have hNot := h call hMem
  cases call with
  | createWindow => cases hNot
  | _ => rfl

theorem windows_of_serves {calls : List Call} (h : ∀ call ∈ calls, call.serves = true) : windows calls = [] :=
  windows_eq_nil fun call hMem => raises_eq_false_of_serves (h call hMem)

end Call

open Call

namespace BringUp

variable {env : Environment} {defaults : SessionDefaults} {headless : Bool} {issued : Nat} {s s' s'' : Session}
  {info : ConnectInfo}

/-- A session that is down has its wake event, or gets one. -/
def HasEvent (env : Environment) (s : Session) : Prop := s.wakeEvent ≠ none ∨ env.system.createEvent = .ok ()

/-- How a session is brought up: with sizes and a title for which the window host is asked once, unless there is to be
no window, and with which the session hosts if it has a window or needs none. -/
structure Raises (env : Environment) (defaults : SessionDefaults) (headless : Bool) (info : ConnectInfo) (s' : Session)
    (calls : List Call) (buffer window : Size) (title : String) : Prop where
  geometry : Geometry defaults info buffer window title
  windows_eq : windows calls =
    if headless then [] else [(title, window, succeeds (env.createWindow title window))]
  hosts : headless = true ∨ env.createWindow title window = .ok () →
    (∃ event input output, s'.Hosts event input output buffer window) ∧ s'.title = title

/-- A session that is not headless asks for one window, and a headless one for none. -/
theorem windows_openWindow {title : String} {size : Size} :
    windows (openWindow env headless title size).2 =
      if headless then [] else [(title, size, succeeds (env.createWindow title size))] := by
  cases headless with
  | true => rfl
  | false =>
      cases hWindow : env.createWindow title size with
      | error failure => simp [openWindow, hWindow, windows, window?, succeeds]
      | ok _ => simp [openWindow, hWindow, windows, window?, succeeds]

theorem windows_holdWakeEvent (system : System) (issued : Nat) (s : Session) :
    windows (holdWakeEvent system issued s).2 = [] := by
  apply List.filterMap_eq_nil_iff.2
  intro call hMem
  obtain ⟨_, rfl⟩ := mem_holdWakeEvent hMem
  rfl

/-- Bring-up fails to hold a wake event only if there is none and none can be made. -/
theorem not_hasEvent {refusal : Refusal} {calls : List Call}
    (h : holdWakeEvent env.system issued s = (.error refusal, calls)) : ¬HasEvent env s := by
  obtain ⟨hNone, hFails, -⟩ := holdWakeEvent_error h
  rintro (hHeld | hCreates)
  · exact hHeld hNone
  · rw [hCreates] at hFails
    cases hFails

/-- All that bring-up asks the window host for. -/
theorem windows_of_openWindow {event : RawHandle} {result : Except Refusal Unit} {title : String} {size : Size}
    {calls more : List Call} (hEvent : holdWakeEvent env.system issued s = (.ok event, calls))
    (hWindow : openWindow env headless title size = (result, more)) :
    windows (calls ++ more) = if headless then [] else [(title, size, succeeds (env.createWindow title size))] := by
  have hHeld := windows_holdWakeEvent env.system issued s
  have hAsked : windows (openWindow env headless title size).2 = _ := windows_openWindow
  rw [hEvent] at hHeld
  rw [hWindow] at hAsked
  rw [windows_append, hHeld, hAsked, List.nil_append]

/-- Bring-up asks for one window of the size and title that the hints and defaults give, or
stops before it. -/
theorem Ends.raises {o : Outcome} (ends : Ends env defaults headless issued s info o) (consistent : s.Consistent)
    (hDown : s.initialized = false) (hEvent : HasEvent env s) :
    Raises env defaults headless info o.session o.calls (bufferSize defaults info) (windowSize defaults info)
      (title defaults info) := by
  cases ends with
  | already hUp => cases hUp.symm.trans hDown
  | noEvent _ hNone => exact absurd hEvent (not_hasEvent hNone)
  | noWindow _ hHeld hWindow =>
      refine ⟨geometry defaults info, windows_of_openWindow hHeld hWindow, fun hOpens => ?_⟩
      obtain ⟨hWanted, hFails, -⟩ := openWindow_error hWindow
      rcases hOpens with hHeadless | hOpened
      · cases hWanted.symm.trans hHeadless
      · rw [hOpened] at hFails
        cases hFails
  | raised _ hHeld hWindow =>
      exact ⟨geometry defaults info, windows_of_openWindow hHeld hWindow,
        fun _ => ⟨⟨_, _, _, consistent.hosts_raised hDown _ _ _ _⟩, rfl⟩⟩

/-- Other calls and what comes after bring-up make no difference. -/
theorem Raises.later {calls more : List Call} {buffer window : Size} {name : String}
    (raises : Raises env defaults headless info s' calls buffer window name) (persists : s'.Persists s'')
    (hWindows : windows more = windows calls) : Raises env defaults headless info s'' more buffer window name where
  geometry := raises.geometry
  windows_eq := hWindows.trans raises.windows_eq
  hosts hOpens := by
    obtain ⟨⟨event, input, output, hosts⟩, hTitle⟩ := raises.hosts hOpens
    exact ⟨⟨event, input, output, hosts.persist persists⟩, persists.title_eq.trans hTitle⟩

end BringUp

namespace Attach

variable {env : Environment} {defaults : SessionDefaults} {headless : Bool} {issued : Nat} {s u : Session}
  {t : Loopback} {info : ConnectInfo} {o : Outcome}

theorem windows_greeting : windows (greeting env info) = [] :=
  windows_of_serves fun _ hMem =>
    (List.mem_append.1 hMem).elim env.serves_of_mem_controlCalls env.serves_of_mem_accessibilityCalls

/-- Settling a new process asks for no window. -/
theorem windows_settled {input output : HandleId} :
    windows (rights env u info (joining s info) ++ (t.publishConnection info.pid input output).calls) = [] :=
  windows_of_serves fun _ hMem =>
    (List.mem_append.1 hMem).elim env.serves_of_mem_controlCalls Loopback.serves_of_mem_publishConnection

/-- A process that attaches to a session that is down brings it up. -/
theorem Ends.raises (ends : Ends env defaults headless issued s t info o) (consistent : s.Consistent)
    (hDown : s.initialized = false) (hEvent : BringUp.HasEvent env s) :
    BringUp.Raises env defaults headless info o.session o.calls (BringUp.bufferSize defaults info)
      (BringUp.windowSize defaults info) (BringUp.title defaults info) := by
  cases ends with
  | known hKnown =>
      rw [ProcessTable.pids, (consistent.down hDown).records_eq] at hKnown
      cases hKnown
  | inputRefused _ hUp => cases hUp.symm.trans hDown
  | outputRefused _ hUp => cases hUp.symm.trans hDown
  | notUp _ hUp =>
      have ended := BringUp.ends_of_run consistent.sound hUp
      apply (ended.raises consistent hDown hEvent).later (ended.consistent consistent).persists
      rw [windows_append, windows_greeting, List.nil_append]
  | attached _ hUp _ _ hOne hTwo hPublished =>
      subst hPublished
      have ended := BringUp.ends_of_run consistent.sound hUp
      have continues := ((ended.consistent consistent).continues.openHandle hOne).openHandle hTwo
      apply (ended.raises consistent hDown hEvent).later (Session.persists_withProcess continues)
      rw [windows_append, windows_append, windows_greeting, windows_settled, List.nil_append, List.append_nil]

end Attach

/-! What holds of every endpoint that a session can be brought up with holds of every endpoint it ever has: a new
output buffer takes its sizes from the one there is. -/

/-- What holds of the endpoints that any session with these defaults is brought up with. -/
structure BringUp.Covers (defaults : SessionDefaults) (P : Endpoint → Prop) : Prop where
  input : ∀ event, P (.input event)
  output : ∀ info, P (.output (bufferSize defaults info) (windowSize defaults info))

theorem BringUp.covers_framed (defaults : SessionDefaults) : Covers defaults (Endpoint.Framed defaults) :=
  ⟨fun _ => trivial, framed defaults⟩

section

variable {P : Endpoint → Prop}

namespace Session

variable {s s' : Session}

/-- Undoing a connection only takes objects away, so what holds of every endpoint still does. -/
theorem every_rollback (every : s.registry.Every P) (pid : UInt32) : (s.rollback pid).registry.Every P := by
  cases hFind : s.processes.find? pid with
  | none =>
      rw [rollback_of_not_mem (ProcessTable.find?_eq_none_iff.1 hFind)]
      exact every
  | some record =>
      rw [rollback_of_find? hFind]
      exact every.foldl_discardHandle record.primaryHandles

theorem every_foldl_rollback (every : s.registry.Every P) (pids : List UInt32) :
    (pids.foldl rollback s).registry.Every P := by
  induction pids generalizing s with
  | nil => exact every
  | cons pid rest ih => exact ih (every_rollback every pid)

theorem every_unpin? {r : Registry} (every : r.Every P) (id : Option ObjectId) : (unpin? r id).Every P := by
  cases id with
  | none => exact every
  | some id => exact every.unpin id

/-- Shutdown only takes objects away. -/
theorem every_teardown (every : s.registry.Every P) : s.teardown.registry.Every P :=
  every_unpin? (every_unpin? (every_foldl_rollback every s.processes.pids) _) _

/-- The size of the active output is that of an endpoint of the session. -/
theorem of_activeOutputSize? {buffer window : Size} (every : s.registry.Every P)
    (h : s.activeOutputSize? = some (buffer, window)) : P (.output buffer window) := by
  simp only [activeOutputSize?, Option.bind_eq_bind, Option.bind_eq_some_iff] at h
  obtain ⟨id, -, object, hObject, hSizes⟩ := h
  have hEndpoint := every.of_object? hObject
  split at hSizes
  · next hOutput =>
      cases hSizes
      rwa [hOutput] at hEndpoint
  · cases hSizes

/-- An opened object has an endpoint that was there, or a copy of the active output. -/
theorem Opens.every {request : CreateRequest} {handle : HandleId} (opens : s.Opens request handle s')
    (every : s.registry.Every P) : s'.registry.Every P := by
  cases opens with
  | endpoint _ _ hOpen => exact every.openHandle hOpen
  | newOutput _ hSize hOpen => exact (every.create (of_activeOutputSize? every hSize) false).openHandle hOpen

end Session

variable {env : Environment} {defaults : SessionDefaults} {headless : Bool} {issued : Nat} {s : Session}
  {info : ConnectInfo}

/-- Bring-up keeps what holds of every endpoint, if it holds of the two that it makes. -/
theorem BringUp.Ends.every {o : Outcome} (ends : Ends env defaults headless issued s info o)
    (covers : Covers defaults P) (every : s.registry.Every P) : o.session.registry.Every P := by
  cases ends with
  | already => exact every
  | noEvent => exact every
  | noWindow => exact every.spend 2 0
  | raised => exact (every.create (covers.input _) true).create (covers.output info) true

/-- An attach keeps what holds of every endpoint, with the same proviso. -/
theorem Attach.Ends.every {t : Loopback} {o : Outcome} (ends : Ends env defaults headless issued s t info o)
    (covers : BringUp.Covers defaults P) (sound : s.registry.Sound) (every : s.registry.Every P) :
    o.session.registry.Every P := by
  cases ends with
  | known => exact every
  | notUp _ hUp => exact (BringUp.ends_of_run sound hUp).every covers every
  | inputRefused => exact every
  | outputRefused _ _ _ _ _ _ restores => exact every.of_outline restores.outline_eq
  | attached _ hUp _ _ hOne hTwo =>
      have raised := (BringUp.ends_of_run sound hUp).every covers every
      exact (raised.openHandle hOne).openHandle hTwo

end

end ConsoleHost
