import ConsoleHost.Proofs.Session.Persists
import ConsoleHost.Proofs.Session.Primaries

/-! What leaves a session together with a process: its record, those of its primary handles that are still open, and
its hold on a history buffer. -/

namespace ConsoleHost

/-- The buffer as it is once a process is gone: free if that process had it, under the same name and stamp. -/
def HistoryBuffer.vacatedBy (b : HistoryBuffer) (pid : UInt32) : HistoryBuffer :=
  if b.owner = some pid then { b with owner := none } else b

theorem HistoryPool.LentTo.giveBack_eq {pool : HistoryPool} {pids : List UInt32} (lent : pool.LentTo pids)
    (pid : UInt32) : pool.giveBack pid = { pool with buffers := pool.buffers.map (·.vacatedBy pid) } := by
  have hRest : pool.giveBack pid = { pool with buffers := (pool.giveBack pid).buffers } := by
    rw [HistoryPool.giveBack]
    split <;> rfl
  rw [hRest]
  refine congrArg (fun buffers => { pool with buffers := buffers }) (List.ext_getElem? fun i => ?_)
  rw [List.getElem?_map]
  have hKept {j : Nat} (hOther : ∀ c, pool.buffers[j]? = some c → c.owner ≠ some pid) :
      pool.buffers[j]? = pool.buffers[j]?.map (·.vacatedBy pid) := by
    cases hBuffer : pool.buffers[j]? with
    | none => rfl
    | some c => rw [Option.map_some, HistoryBuffer.vacatedBy, if_neg (hOther c hBuffer)]
  rcases giveBack_cases pool pid with ⟨hNobody, hSame⟩ | ⟨k, b, hb, hOwner, hBuffers⟩
  · rw [hSame]
    exact hKept (hNobody i)
  · rw [hBuffers]
    by_cases hPlace : i = k
    · rw [if_pos hPlace, hPlace, hb, Option.map_some, HistoryBuffer.vacatedBy, if_pos hOwner]
    · rw [if_neg hPlace]
      exact hKept fun c hc hOwned => hPlace (lent.unique i k c b pid hc hb hOwned hOwner)

namespace Session

/-- The session is rid of one process, and is the same otherwise. What was closed was that process's own, and nobody
has the same handle. -/
structure Releases (s : Session) (p : ProcessRecord) (s' : Session) : Prop where
  rest_eq : s' = { s with processes := s'.processes, registry := s'.registry, histories := s'.histories }
  records : ∃ before after, s.processes.records = before ++ p :: after ∧ s'.processes.records = before ++ after ∧
    ∀ q ∈ before ++ after, q.pid ≠ p.pid ∧ ∀ handle ∈ q.primaryHandles, handle ∉ p.primaryHandles
  handles_eq : s'.registry.handles.entries = s.registry.handles.entries.filter fun e => e.1 ∉ p.primaryHandles
  own : ∀ kind handle x, p.primary kind = some handle → s.registry.handle? handle = some x →
    ∃ id, s.endpoint kind = some id ∧ x = ⟨id, kind, .readWrite, .all⟩
  objects_eq : s'.registry.outline = s.registry.outline
  tallies : s'.registry.Few → ∀ id object, s'.registry.object? id = some object →
    object.counts.Tallies (s'.registry.handlesOn id)
  others_eq : ∀ id, (∀ kind, s.endpoint kind ≠ some id) → s'.registry.object? id = s.registry.object? id
  histories_eq : s'.histories = { s.histories with buffers := s.histories.buffers.map (·.vacatedBy p.pid) }

variable {s : Session} {p : ProcessRecord}

/-- Nobody else has the handles of a process. -/
theorem Owned.not_mem_of_split (owned : s.Owned) {before after : List ProcessRecord}
    (hRecords : s.processes.records = before ++ p :: after) {q : ProcessRecord} (hMem : q ∈ before ++ after)
    {handle : HandleId} (hHandle : handle ∈ q.primaryHandles) : handle ∉ p.primaryHandles := by
  intro hShared
  have nodup := owned.nodup
  rw [ProcessTable.primaries, hRecords] at nodup
  have hPerm : List.Perm (before ++ p :: after) (p :: (before ++ after)) := List.perm_middle
  have hFlat := (hPerm.flatMap_right ProcessRecord.primaryHandles).nodup_iff.1 nodup
  rw [List.flatMap_cons] at hFlat
  exact List.disjoint_of_nodup_append hFlat hShared (List.mem_flatMap.2 ⟨q, hMem, hHandle⟩)

theorem Consistent.releases_rollback (consistent : s.Consistent) (owned : s.Owned) (hMem : p ∈ s.processes.records) :
    s.Releases p (s.rollback p.pid) := by
  obtain ⟨before, after, hRecords, hOthers⟩ := ProcessTable.split_of_mem consistent.pids_nodup hMem
  have hBefore : ∀ q ∈ before, q.pid ≠ p.pid := fun q hq => hOthers q (List.mem_append_left _ hq)
  -- What is open under a primary handle is open on an endpoint, which stays because it is pinned.
  have hPins : ∀ handle ∈ p.primaryHandles, ∀ x, s.registry.handle? handle = some x →
      ∃ endpoint, s.registry.Pins x.object endpoint := by
    intro handle hHandle x hLive
    obtain ⟨kind, hNote⟩ := ProcessRecord.mem_primaryHandles.1 hHandle
    obtain ⟨id, hEndpoint, rfl⟩ := owned.live p hMem kind handle x hNote hLive
    exact consistent.pins_of_endpoint hEndpoint
  have consistent' := consistent.rollback p.pid
  rw [rollback_of_find? (ProcessTable.find?_of_split hRecords hBefore)] at consistent' ⊢
  refine ⟨rfl, ⟨before, after, hRecords, ProcessTable.records_erase_of_split hRecords hBefore, ?_⟩,
    ?_, ?_, ?_, ?_, ?_, ?_⟩
  · intro q hOther
    exact ⟨hOthers q hOther, fun handle hHandle => owned.not_mem_of_split hRecords hOther hHandle⟩
  · exact Registry.entries_foldl_discardHandle ..
  · exact owned.live p hMem
  · exact consistent.sound.outline_foldl_discardHandle _ hPins
  · exact fun few => (consistent'.sound.accurate_of_few few).tallies
  · intro id hOther
    refine consistent.sound.object?_foldl_discardHandle_of_ne _ fun handle hHandle x hLive => ?_
    obtain ⟨kind, hNote⟩ := ProcessRecord.mem_primaryHandles.1 hHandle
    obtain ⟨endpoint, hEndpoint, rfl⟩ := owned.live p hMem kind handle x hNote hLive
    rintro rfl
    exact hOther kind hEndpoint
  · exact consistent.lent.giveBack_eq p.pid

end Session

end ConsoleHost
