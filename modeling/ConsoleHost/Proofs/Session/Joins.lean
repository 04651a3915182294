import ConsoleHost.Proofs.Connect
import ConsoleHost.Proofs.Session.Admission
import ConsoleHost.Proofs.Session.Persists

/-! What a process that gets through finds in the session: its record behind the others, a handle on each of the two
endpoints, and one opener more in the counts of both. Everything else stays, but for the foreground rights, which are
brought to what the session grants. -/

namespace ConsoleHost

namespace SharingCounts

/-- Each of the five words with one more. -/
def oneMore (c : SharingCounts) : SharingCounts :=
  ⟨c.opens + 1, c.readers + 1, c.writers + 1, c.readSharers + 1, c.writeSharers + 1⟩

/-- As numbers, each of the five counts is larger by one. -/
structure Grows (c c' : SharingCounts) : Prop where
  opens_eq : c'.opens.toNat = c.opens.toNat + 1
  readers_eq : c'.readers.toNat = c.readers.toNat + 1
  writers_eq : c'.writers.toNat = c.writers.toNat + 1
  readSharers_eq : c'.readSharers.toNat = c.readSharers.toNat + 1
  writeSharers_eq : c'.writeSharers.toNat = c.writeSharers.toNat + 1

/-- Words that count some handles have room for one more handle. -/
theorem Tallies.grows {c : SharingCounts} {handles : List IoHandle} (tallies : c.Tallies handles)
    (hRoom : handles.length + 1 < UInt32.size) : c.Grows c.oneMore := by
  have hUp {n : UInt32} (h : n.toNat ≤ handles.length) : (countUp n true).toNat = n.toNat + 1 :=
    toNat_countUp (by omega)
  have hCounted {n : UInt32} {p : IoHandle → Bool} (h : n.toNat = handles.countP p) :
      (n + 1).toNat = n.toNat + 1 :=
    hUp (h ▸ List.countP_le_length)
  exact ⟨hUp (Nat.le_of_eq tallies.opens_eq), hCounted tallies.readers_eq, hCounted tallies.writers_eq,
    hCounted tallies.readSharers_eq, hCounted tallies.writeSharers_eq⟩

end SharingCounts

theorem Registry.Sound.grows {r : Registry} {id : ObjectId} {object : SessionObject} (sound : r.Sound)
    (hRoom : r.lastHandle + 1 < UInt32.size) (hObject : r.object? id = some object) :
    object.counts.Grows object.counts.oneMore := by
  have few : r.Few := Nat.lt_of_succ_lt hRoom
  have hLength : (r.handlesOn id).length ≤ r.lastHandle :=
    Nat.le_trans (Registry.length_handlesOn_le id) sound.length_handles_le
  refine ((sound.accurate_of_few few).tallies id object hObject).grows ?_
  omega

namespace Session

/-- The record of a process that has got through, as its message and the tokens it was given have it. -/
structure Describes (record : ProcessRecord) (d : Descriptor) (m : ConnectMessage) (tokens : ConnectionTokens) :
    Prop where
  pid_eq : record.pid.toNat = d.process.toNat
  tid_eq : record.tid.toNat = d.object.toNat
  group_eq : record.group = m.group
  token_eq : record.token = some tokens.process
  input_eq : record.input = some ⟨tokens.input⟩
  output_eq : record.output = some ⟨tokens.output⟩

/-- The endpoints that a process finds open to it: those of a session that is up, or two new ones that nobody has
open. -/
structure Finds (s : Session) (input output : ObjectId) (first second : SessionObject) : Prop where
  ne : input ≠ output
  of_up : s.initialized = true → s.input = some input ∧ s.activeOutput = some output ∧
    s.registry.object? input = some first ∧ s.registry.object? output = some second
  of_down : s.initialized = false → s.registry.lastObject < input.number ∧ s.registry.lastObject < output.number ∧
    first.counts = .zero ∧ second.counts = .zero

/-- A session that a process has joined, with the handles it was given. -/
structure Joins (s : Session) (d : Descriptor) (m : ConnectMessage) (tokens : ConnectionTokens) (s' : Session) :
    Prop where
  /-- There is one record more, and otherwise only foreground rights have changed. -/
  records : ∃ record, Describes record d m tokens ∧ record.root = !s.initialized ∧
    s'.processes.records = (s.processes.records ++ [record]).map ({ · with foreground := s'.grantsForeground })
  new : tokens.input = s.registry.lastHandle + 1 ∧ tokens.output = s.registry.lastHandle + 2
  /-- There are two handles more, and only the counts of their objects have changed. While few handles were
  opened, no word of these counts has started again. -/
  handles : ∃ input output first second, s.Finds input output first second ∧
    s'.input = some input ∧ s'.activeOutput = some output ∧
    s'.registry.handles.entries = s.registry.handles.entries ++
      [(⟨tokens.input⟩, ⟨input, .input, .readWrite, .all⟩), (⟨tokens.output⟩, ⟨output, .output, .readWrite, .all⟩)] ∧
    (∀ id, s'.registry.object? id =
      if id = input then some { first with counts := first.counts.oneMore }
      else if id = output then some { second with counts := second.counts.oneMore }
      else s.registry.object? id) ∧
    (s'.registry.Few → first.counts.Grows first.counts.oneMore ∧ second.counts.Grows second.counts.oneMore)
  /-- A session that was up is left as it is. -/
  persists : s.initialized = true → s.Persists s'

variable {s s' u : Session}

/-- A session that is ready for a process, before anything is opened for it. -/
structure Ready (s u : Session) (input output : ObjectId) (first second : SessionObject) : Prop where
  finds : s.Finds input output first second
  input_eq : u.input = some input
  activeOutput_eq : u.activeOutput = some output
  first_eq : u.registry.object? input = some first
  second_eq : u.registry.object? output = some second
  kinds : first.endpoint.kind = .input ∧ second.endpoint.kind = .output
  others_eq : ∀ id, id ≠ input → id ≠ output → u.registry.object? id = s.registry.object? id
  handles_eq : u.registry.handles = s.registry.handles
  lastHandle_eq : u.registry.lastHandle = s.registry.lastHandle
  processes_eq : u.processes = s.processes

/-- A session that is up is ready as it is. -/
theorem Consistent.ready (consistent : s.Consistent) (hUp : s.initialized = true) :
    ∃ input output first second, s.Ready s input output first second := by
  obtain ⟨event, input, output, buffer, window, hosts⟩ := consistent.up hUp
  obtain ⟨first, hFirst⟩ := (hosts.pins_iff input (.input event)).2 (.inl ⟨rfl, rfl⟩)
  obtain ⟨second, hSecond⟩ := (hosts.pins_iff output (.output buffer window)).2 (.inr ⟨rfl, rfl⟩)
  have finds : s.Finds input output ⟨.input event, first, true⟩ ⟨.output buffer window, second, true⟩ := by
    refine ⟨hosts.input_ne_output, fun _ => ⟨hosts.input_eq, hosts.activeOutput_eq, hFirst, hSecond⟩, ?_⟩
    intro hDown
    cases hUp.symm.trans hDown
  exact ⟨input, output, _, _, finds, hosts.input_eq, hosts.activeOutput_eq, hFirst, hSecond, ⟨rfl, rfl⟩,
    fun _ _ _ => rfl, rfl, rfl, rfl⟩

/-- A session that was just brought up has two new endpoints. -/
theorem Consistent.ready_raised (consistent : s.Consistent) (hDown : s.initialized = false) (event : RawHandle)
    (buffer window : Size) (title : String) :
    ∃ input output first second, s.Ready (s.raised event buffer window title) input output first second := by
  have sound := consistent.sound.create (.input event) true
  have hFirst := consistent.sound.object?_create (.input event) true
  have hSecond := sound.object?_create (.output buffer window) true
  have hNumber : (s.registry.create (.input event) true).nextObject.number = s.registry.lastObject + 2 := rfl
  have hNe : s.registry.nextObject ≠ (s.registry.create (.input event) true).nextObject := by
    intro hSame
    have hNumbers : s.registry.lastObject + 1 = s.registry.lastObject + 2 := congrArg ObjectId.number hSame
    omega
  have finds : s.Finds s.registry.nextObject (s.registry.create (.input event) true).nextObject
      ⟨.input event, .zero, true⟩ ⟨.output buffer window, .zero, true⟩ := by
    refine ⟨hNe, fun hUp => ?_, fun _ => ⟨?_, ?_, rfl, rfl⟩⟩
    · cases hUp.symm.trans hDown
    · exact Nat.lt_succ_self _
    · rw [hNumber]
      omega
  refine ⟨_, _, _, _, finds, rfl, rfl, ?_, ?_, ⟨rfl, rfl⟩, ?_, rfl, rfl, rfl⟩
  · exact (hSecond _).trans ((if_neg hNe).trans ((hFirst _).trans (if_pos rfl)))
  · exact (hSecond _).trans (if_pos rfl)
  · intro id hInput hOutput
    exact (hSecond id).trans ((if_neg hOutput).trans ((hFirst id).trans (if_neg hInput)))

end Session

namespace BringUp

theorem Ends.ready_of_ok {env : Environment} {defaults : SessionDefaults} {headless : Bool} {issued : Nat}
    {s : Session} {info : ConnectInfo} {o : Outcome} (ends : Ends env defaults headless issued s info o)
    (consistent : s.Consistent) (h : o.result = .ok ()) :
    ∃ input output first second, s.Ready o.session input output first second := by
  cases ends with
  | already hUp => exact consistent.ready hUp
  | noEvent => cases h
  | noWindow => cases h
  | raised hDown => exact consistent.ready_raised hDown ..

end BringUp

namespace Session

variable {s s' u : Session} {input output : ObjectId} {first second : SessionObject}

/-- Before a session is up it makes no difference whether it holds a wake event. -/
theorem Joins.of_wakeEvent {event : Option RawHandle} {d : Descriptor} {m : ConnectMessage}
    {tokens : ConnectionTokens} (joins : { s with wakeEvent := event }.Joins d m tokens s')
    (hDown : s.initialized = false) : s.Joins d m tokens s' := by
  obtain ⟨input, output, first, second, finds, hAfter⟩ := joins.handles
  refine ⟨joins.records, joins.new, ⟨input, output, first, second, ⟨finds.ne, finds.of_up, finds.of_down⟩, hAfter⟩, ?_⟩
  intro hUp
  cases hUp.symm.trans hDown

/-- Both handles of a process, opened one after the other. -/
theorem Ready.opened {one two : Registry} {handle later : HandleId}
    (ready : s.Ready u input output first second)
    (hOne : u.registry.openHandle input .readWrite .all = (.ok handle, one))
    (hTwo : one.openHandle output .readWrite .all = (.ok later, two)) :
    two.handles.entries = s.registry.handles.entries ++
        [(u.registry.nextHandle, ⟨input, .input, .readWrite, .all⟩),
          (one.nextHandle, ⟨output, .output, .readWrite, .all⟩)] ∧
      ∀ id, two.object? id =
        if id = input then some { first with counts := first.counts.oneMore }
        else if id = output then some { second with counts := second.counts.oneMore }
        else s.registry.object? id := by
  obtain ⟨hInput, hOutput⟩ := ready.kinds
  have hObjects := Registry.object?_openHandle ready.first_eq hOne
  have hSecond := ((hObjects output).trans (if_neg ready.finds.ne.symm)).trans ready.second_eq
  have hLater := Registry.object?_openHandle hSecond hTwo
  constructor
  · rw [Registry.entries_openHandle hSecond hTwo, Registry.entries_openHandle ready.first_eq hOne, ready.handles_eq,
      Registry.newHandle, Registry.newHandle, hInput, hOutput, List.append_assoc]
    rfl
  · intro id
    rw [hLater, hObjects]
    by_cases hFirst : id = input
    · rw [if_pos hFirst, if_pos hFirst, if_neg (hFirst ▸ ready.finds.ne)]
      rfl
    · rw [if_neg hFirst, if_neg hFirst]
      by_cases hOther : id = output
      · rw [if_pos hOther, if_pos hOther]
        rfl
      · rw [if_neg hOther, if_neg hOther, ready.others_eq id hFirst hOther]

end Session

namespace Attach

/-- A process that gets through has joined, with the tokens it is published under. -/
theorem Ends.joins_of_ok {env : Environment} {defaults : SessionDefaults} {headless : Bool} {issued : Nat}
    {s : Session} {t : Loopback} {d : Descriptor} {m : ConnectMessage} {info : ConnectInfo} {o : Outcome}
    {tokens : ConnectionTokens} (ends : Ends env defaults headless issued s t info o) (consistent : s.Consistent)
    (hInfo : ConnectInfo.ofMessage d m = .ok info) (h : o.result = .ok tokens) : s.Joins d m tokens o.session := by
  have copies := ConnectInfo.copies_of_ofMessage hInfo
  have persists := ends.persists consistent
  cases ends with
  | known => cases h
  | notUp => cases h
  | inputRefused => cases h
  | outputRefused => cases h
  | @attached u calls _ _ one two published hNew hUp hInput hOutput hOne hTwo hPublished =>
      obtain ⟨_, _, first, second, ready⟩ := (BringUp.ends_of_run consistent.sound hUp).ready_of_ok consistent rfl
      cases hInput.symm.trans ready.input_eq
      cases hOutput.symm.trans ready.activeOutput_eq
      obtain ⟨hHandles, hObjects⟩ := ready.opened hOne hTwo
      have sound : u.registry.Sound := ((BringUp.ends_of_run consistent.sound hUp).consistent consistent).sound
      have hNumber : one.lastHandle = u.registry.lastHandle + 1 := Registry.lastHandle_openHandle hOne
      have hLast : two.lastHandle = one.lastHandle + 1 := Registry.lastHandle_openHandle hTwo
      have hBefore : u.registry.lastHandle = s.registry.lastHandle := ready.lastHandle_eq
      have hProcesses : u.processes = s.processes := ready.processes_eq
      subst hPublished
      cases h
      refine ⟨⟨joined s u info u.registry.nextHandle one.nextHandle _,
          ⟨copies.pid_eq, copies.tid_eq, copies.group_eq, rfl, rfl, rfl⟩, rfl, ?_⟩,
        ⟨?_, ?_⟩, ⟨_, _, first, second, ready.finds, hInput, hOutput, hHandles, hObjects, fun few => ?_⟩, persists⟩
      · rw [← hProcesses, List.map_append]
        rfl
      · show u.registry.lastHandle + 1 = s.registry.lastHandle + 1
        omega
      · show one.lastHandle + 1 = s.registry.lastHandle + 2
        omega
      · have hFew : two.lastHandle < UInt32.size := few
        exact ⟨sound.grows (by omega) ready.first_eq, sound.grows (by omega) ready.second_eq⟩

end Attach

end ConsoleHost
