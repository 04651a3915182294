import ConsoleHost.Proofs.Session.Joins
import ConsoleHost.Proofs.Session.Ledger
import ConsoleHost.Proofs.Session.Members
import ConsoleHost.Proofs.Session.Targets
import Mathlib.Data.List.Flatten

/-! Whose the primary handles are. A record keeps the numbers of its two handles for as long as it lasts, whether they
are still open or not; that no such number ever comes to stand for somebody else's handle follows from numbers being
given out once. -/

namespace ConsoleHost

/-- Entries behind the others are not found under their identifiers. -/
theorem Table.get?_of_entries_append {κ α : Type} [DecidableEq κ] {t t' : Table κ α} {more : List (κ × α)} {k : κ}
    (h : t'.entries = t.entries ++ more) (hOthers : ∀ e ∈ more, e.1 ≠ k) : t'.get? k = t.get? k := by
  have hNone : more.find? (fun e => e.1 = k) = none := by simpa using hOthers
  rw [get?, get?, h, List.find?_append, hNone, Option.or_none]

def ProcessRecord.primary (p : ProcessRecord) : EndpointKind → Option HandleId
  | .input => p.input
  | .output => p.output

theorem ProcessRecord.primary_foreground (p : ProcessRecord) (on : Bool) :
    { p with foreground := on }.primary = p.primary := by
  funext kind
  cases kind with
  | input => rfl
  | output => rfl

theorem ProcessRecord.mem_primaryHandles {p : ProcessRecord} {handle : HandleId} :
    handle ∈ p.primaryHandles ↔ ∃ kind, p.primary kind = some handle := by
  simp only [primaryHandles, List.mem_append, Option.mem_toList]
  constructor
  · rintro (hInput | hOutput)
    · exact ⟨.input, hInput⟩
    · exact ⟨.output, hOutput⟩
  · rintro ⟨kind, hNote⟩
    cases kind with
    | input => exact .inl hNote
    | output => exact .inr hNote

namespace ProcessTable

variable {t t' : ProcessTable}

def primaries (t : ProcessTable) : List HandleId := t.records.flatMap ProcessRecord.primaryHandles

theorem primaries_members : t.members.primaries = t.primaries := by
  simp only [primaries, members, setForeground, List.flatMap_map]
  rfl

theorem mem_primaries {p : ProcessRecord} {kind : EndpointKind} {handle : HandleId} (hMem : p ∈ t.records)
    (hNote : p.primary kind = some handle) : handle ∈ t.primaries :=
  List.mem_flatMap.2 ⟨p, hMem, ProcessRecord.mem_primaryHandles.2 ⟨kind, hNote⟩⟩

theorem primaries_sublist (h : t'.members.records.Sublist t.members.records) : t'.primaries.Sublist t.primaries := by
  rw [← primaries_members, ← primaries_members (t := t)]
  exact h.flatMap _

end ProcessTable

namespace Session

/-- Every primary handle was given out, to one process alone; if it is open, it is open as that process got it, on an
endpoint of the session. -/
structure Owned (s : Session) : Prop where
  nodup : s.processes.primaries.Nodup
  given : ∀ handle ∈ s.processes.primaries, handle.number ≤ s.registry.lastHandle
  live : ∀ p ∈ s.processes.records, ∀ kind handle x, p.primary kind = some handle →
    s.registry.handle? handle = some x →
    ∃ id, s.endpoint kind = some id ∧ x = ⟨id, kind, .readWrite, .all⟩

variable {s s' : Session}

/-! A session that nobody new joins. -/

/-- Some processes may have left, handles that were there may have been closed, and new ones may have been opened, but
the endpoints are the same as long as anybody is there. -/
structure Tends (s s' : Session) : Prop where
  records : s'.processes.members.records.Sublist s.processes.members.records
  lastHandle_le : s.registry.lastHandle ≤ s'.registry.lastHandle
  handle?_of_given : ∀ handle x, handle.number ≤ s.registry.lastHandle →
    s'.registry.handle? handle = some x → s.registry.handle? handle = some x
  endpoint_eq : s.initialized = true → s'.processes.records ≠ [] → ∀ kind, s'.endpoint kind = s.endpoint kind

/-- Whoever is there afterwards was there before, with the same primary handles. -/
theorem Tends.exists_record (tends : s.Tends s') {p : ProcessRecord} (hMem : p ∈ s'.processes.records) :
    ∃ q ∈ s.processes.records, q.primary = p.primary := by
  have hMember : { p with foreground := false } ∈ s'.processes.members.records := List.mem_map_of_mem hMem
  obtain ⟨q, hBefore, hSame⟩ := List.mem_map.1 (tends.records.subset hMember)
  have hPrimary := congrArg ProcessRecord.primary hSame
  rw [ProcessRecord.primary_foreground, ProcessRecord.primary_foreground] at hPrimary
  exact ⟨q, hBefore, hPrimary⟩

theorem Owned.tends (owned : s.Owned) (consistent : s.Consistent) (tends : s.Tends s') : s'.Owned := by
  have hSub := ProcessTable.primaries_sublist tends.records
  refine ⟨owned.nodup.sublist hSub, ?_, ?_⟩
  · intro handle hMem
    exact Nat.le_trans (owned.given handle (hSub.subset hMem)) tends.lastHandle_le
  · intro p hMem kind handle x hNote hLive
    obtain ⟨q, hBefore, hSame⟩ := tends.exists_record hMem
    rw [← hSame] at hNote
    have hGiven := owned.given handle (ProcessTable.mem_primaries hBefore hNote)
    have hWasLive := tends.handle?_of_given handle x hGiven hLive
    rw [tends.endpoint_eq (consistent.initialized_of_mem hBefore) (List.ne_nil_of_mem hMem)]
    exact owned.live q hBefore kind handle x hNote hWasLive

/-! A session that a process joins. -/

namespace Joins

variable {d : Descriptor} {m : ConnectMessage} {tokens : ConnectionTokens}

/-- Handles that were given out before are as they were. -/
theorem handle?_of_given (joins : s.Joins d m tokens s') {handle : HandleId}
    (hGiven : handle.number ≤ s.registry.lastHandle) :
    s'.registry.handle? handle = s.registry.handle? handle := by
  obtain ⟨_, _, _, _, _, _, _, hHandles, _⟩ := joins.handles
  obtain ⟨hFirst, hSecond⟩ := joins.new
  apply Table.get?_of_entries_append hHandles
  simp only [List.mem_cons, List.not_mem_nil, or_false, forall_eq_or_imp, forall_eq]
  constructor
  · rintro rfl
    simp only at hGiven
    omega
  · rintro rfl
    simp only at hGiven
    omega

theorem primaries_eq (joins : s.Joins d m tokens s') :
    s'.processes.primaries = s.processes.primaries ++ [⟨tokens.input⟩, ⟨tokens.output⟩] := by
  obtain ⟨record, describes, -, hRecords⟩ := joins.records
  have hNew : record.primaryHandles = [⟨tokens.input⟩, ⟨tokens.output⟩] := by
    rw [ProcessRecord.primaryHandles, describes.input_eq, describes.output_eq]
    rfl
  rw [← hNew, ProcessTable.primaries, hRecords, List.flatMap_map, List.flatMap_append, List.flatMap_singleton]
  rfl

/-- The two handles of the process are open, each on its endpoint. -/
theorem live (joins : s.Joins d m tokens s') (consistent' : s'.Consistent) :
    ∃ input output, s'.input = some input ∧ s'.activeOutput = some output ∧
      s'.registry.handle? ⟨tokens.input⟩ = some ⟨input, .input, .readWrite, .all⟩ ∧
      s'.registry.handle? ⟨tokens.output⟩ = some ⟨output, .output, .readWrite, .all⟩ := by
  obtain ⟨input, output, _, _, _, hInput, hOutput, hHandles, _⟩ := joins.handles
  have distinct := consistent'.sound.handles_distinct
  exact ⟨input, output, hInput, hOutput, distinct.get?_of_mem (by simp [hHandles]),
    distinct.get?_of_mem (by simp [hHandles])⟩

theorem endpoint_eq (joins : s.Joins d m tokens s') (hUp : s.initialized = true) (kind : EndpointKind) :
    s'.endpoint kind = s.endpoint kind := by
  obtain ⟨input, output, _, _, finds, hInput, hOutput, _⟩ := joins.handles
  obtain ⟨hFound, hOther, -⟩ := finds.of_up hUp
  exact endpoint_congr (hInput.trans hFound.symm) (hOutput.trans hOther.symm) kind

end Joins

/-- A process that joins gets two numbers that nobody has. -/
theorem Owned.joins (owned : s.Owned) (consistent : s.Consistent) (consistent' : s'.Consistent) {d : Descriptor}
    {m : ConnectMessage} {tokens : ConnectionTokens} (joins : s.Joins d m tokens s') : s'.Owned := by
  obtain ⟨record, describes, -, hRecords⟩ := joins.records
  obtain ⟨input, output, hInput, hOutput, hFirst, hSecond⟩ := joins.live consistent'
  obtain ⟨hInputNumber, hOutputNumber⟩ := joins.new
  have hLast : tokens.output ≤ s'.registry.lastHandle :=
    consistent'.sound.handle_le _ (Table.mem_keys_of_get? hSecond)
  refine ⟨?_, ?_, ?_⟩
  · rw [joins.primaries_eq, List.nodup_append]
    refine ⟨owned.nodup, by simp [hInputNumber, hOutputNumber], ?_⟩
    rintro handle hMem _ hNew rfl
    have hGiven := owned.given handle hMem
    simp only [List.mem_cons, List.not_mem_nil, or_false] at hNew
    rcases hNew with rfl | rfl
    · simp only at hGiven
      omega
    · simp only at hGiven
      omega
  · intro handle hMem
    rw [joins.primaries_eq] at hMem
    simp only [List.mem_append, List.mem_cons, List.not_mem_nil, or_false] at hMem
    rcases hMem with hBefore | rfl | rfl
    · have hGiven := owned.given handle hBefore
      omega
    · show tokens.input ≤ s'.registry.lastHandle
      omega
    · exact hLast
  · intro p hMem kind handle x hNote hLive
    rw [hRecords] at hMem
    obtain ⟨q, hThere, rfl⟩ := List.mem_map.1 hMem
    rcases List.mem_append.1 hThere with hBefore | hNew
    · have hWas : q.primary kind = some handle := by
        rwa [ProcessRecord.primary_foreground] at hNote
      rw [joins.handle?_of_given (owned.given handle (ProcessTable.mem_primaries hBefore hWas))] at hLive
      rw [joins.endpoint_eq (consistent.initialized_of_mem hBefore)]
      exact owned.live q hBefore kind handle x hWas hLive
    · cases List.mem_singleton.1 hNew
      cases kind with
      | input =>
          cases describes.input_eq.symm.trans hNote
          exact ⟨input, hInput, Option.some.inj (hLive.symm.trans hFirst)⟩
      | output =>
          cases describes.output_eq.symm.trans hNote
          exact ⟨output, hOutput, Option.some.inj (hLive.symm.trans hSecond)⟩

end Session

end ConsoleHost
