import ConsoleHost.Process
import Mathlib.Data.List.Nodup

/-! The records of processes. A record that has just joined is the last one, and changing or removing
it leaves the others as they were. -/

namespace ConsoleHost.ProcessTable

variable {t : ProcessTable} {record : ProcessRecord} {pid : UInt32}

/-- Nothing is found under a process that has no record. -/
theorem find?_eq_none_iff : t.find? pid = none ↔ pid ∉ t.pids := by
  simp [find?, pids]

@[simp] theorem pids_setForeground (on : Bool) : (t.setForeground on).pids = t.pids := by
  simp [pids, setForeground]

/-! A record behind the others. -/

def enter (t : ProcessTable) (record : ProcessRecord) : ProcessTable := ⟨t.records ++ [record]⟩

/-- A new process may join. -/
theorem join_of_not_mem (h : record.pid ∉ t.pids) : t.join record = .ok (t.enter record) := by
  rw [join, find?_eq_none_iff.2 h]
  rfl

/-- A process that has a record may not join again. -/
theorem join_of_mem (h : record.pid ∈ t.pids) :
    t.join record = .error (.alreadyConnected record.pid) := by
  cases hFind : t.find? record.pid with
  | none => exact absurd h (find?_eq_none_iff.1 hFind)
  | some found => rw [join, hFind]

/-- Whoever enters comes last. -/
theorem pids_enter : (t.enter record).pids = t.pids ++ [record.pid] := by
  simp [pids, enter]

theorem setForeground_enter (on : Bool) :
    (t.enter record).setForeground on =
      (t.setForeground on).enter { record with foreground := on } := by
  simp [setForeground, enter]

theorem ne_of_not_mem (h : pid ∉ t.pids) {p : ProcessRecord} (hMem : p ∈ t.records) : p.pid ≠ pid := by
  rintro rfl
  exact h (List.mem_map_of_mem hMem)

/-- Changing the record that has just entered is the same as entering the changed one. -/
theorem update_enter (change : ProcessRecord → ProcessRecord) (h : record.pid ∉ t.pids) :
    (t.enter record).update record.pid change = t.enter (change record) := by
  have hOthers : (t.records.map fun p => if p.pid = record.pid then change p else p) = t.records := by
    conv_rhs => rw [← List.map_id t.records]
    exact List.map_congr_left fun p hMem => if_neg (ne_of_not_mem h hMem)
  simp [update, enter, hOthers]

theorem find?_enter (h : record.pid ∉ t.pids) : (t.enter record).find? record.pid = some record := by
  have hOthers := find?_eq_none_iff.2 h
  rw [find?] at hOthers
  simp [find?, enter, List.find?_append, hOthers]

/-- Whoever has just entered can be taken out without a trace. -/
theorem erase_enter (h : record.pid ∉ t.pids) : (t.enter record).erase record.pid = t := by
  have hOthers : ∀ p ∈ t.records, ¬(decide (p.pid = record.pid)) = true :=
    fun p hMem => by simpa using ne_of_not_mem h hMem
  simp [erase, enter, List.eraseP_append_right _ hOthers]

/-! A record that leaves. -/

theorem pids_erase : (t.erase pid).pids = t.pids.erase pid := by
  have hSame : (fun p : ProcessRecord => decide (p.pid = pid)) = (pid == ·) ∘ ProcessRecord.pid :=
    funext fun p => decide_eq_decide.2 eq_comm
  rw [pids, pids, List.erase_eq_eraseP, List.eraseP_map, erase, hSame]

theorem mem_records_of_mem_erase (h : record ∈ (t.erase pid).records) : record ∈ t.records :=
  List.mem_of_mem_eraseP h

/-- A record stands among others, which are of other processes. -/
theorem split_of_mem (nodup : t.pids.Nodup) (hMem : record ∈ t.records) :
    ∃ before after, t.records = before ++ record :: after ∧ ∀ q ∈ before ++ after, q.pid ≠ record.pid := by
  obtain ⟨before, after, hRecords⟩ := List.append_of_mem hMem
  refine ⟨before, after, hRecords, fun q hOther hSame => ?_⟩
  rw [pids, hRecords, List.map_append, List.map_cons, List.nodup_middle, ← List.map_append, List.nodup_cons] at nodup
  exact nodup.1 (hSame ▸ List.mem_map_of_mem hOther)

variable {before after : List ProcessRecord}

theorem find?_of_split (hRecords : t.records = before ++ record :: after)
    (hOthers : ∀ q ∈ before, q.pid ≠ record.pid) : t.find? record.pid = some record :=
  List.find?_eq_some_iff_append.2 ⟨by simp, before, after, hRecords, by simpa using hOthers⟩

/-- Taking a record out leaves the others in their order. -/
theorem records_erase_of_split (hRecords : t.records = before ++ record :: after)
    (hOthers : ∀ q ∈ before, q.pid ≠ record.pid) : (t.erase record.pid).records = before ++ after := by
  rw [erase, hRecords, List.eraseP_append_right _ (by simpa using hOthers), List.eraseP_cons_of_pos (by simp)]

end ConsoleHost.ProcessTable
