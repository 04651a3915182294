import ConsoleHost.Registry.Table
import Mathlib.Data.List.Nodup

/-! Tables whose identifiers are pairwise distinct: look-up and membership say the same, and an entry
splits the table into what stands before it and what stands behind it. -/

namespace ConsoleHost.Table

variable {κ α : Type} [DecidableEq κ]

/-- No identifier stands in front of two entries. -/
def Distinct (t : Table κ α) : Prop := t.keys.Nodup

/-- What is found under a key is entered under it. -/
theorem mem_entries_of_get? {t : Table κ α} {k : κ} {v : α} (h : t.get? k = some v) :
    (k, v) ∈ t.entries := by
  simp only [get?, Option.map_eq_some_iff] at h
  obtain ⟨⟨j, w⟩, hFind, rfl⟩ := h
  have hKey : j = k := by simpa using List.find?_some hFind
  subst hKey
  exact List.mem_of_find?_eq_some hFind

omit [DecidableEq κ] in
theorem mem_keys_of_mem_entries {t : Table κ α} {k : κ} {v : α} (h : (k, v) ∈ t.entries) :
    k ∈ t.keys :=
  List.mem_map_of_mem h

theorem mem_keys_of_get? {t : Table κ α} {k : κ} {v : α} (h : t.get? k = some v) : k ∈ t.keys :=
  mem_keys_of_mem_entries (mem_entries_of_get? h)

theorem mem_values_of_get? {t : Table κ α} {k : κ} {v : α} (h : t.get? k = some v) : v ∈ t.values :=
  List.mem_map_of_mem (mem_entries_of_get? h)

/-- A key that is in use leads to something. -/
theorem exists_get?_of_mem_keys {t : Table κ α} {k : κ} (h : k ∈ t.keys) :
    ∃ v, t.get? k = some v := by
  cases hGet : t.get? k with
  | none => exact absurd h ((t.get?_eq_none_iff k).1 hGet)
  | some v => exact ⟨v, rfl⟩

/-- An entry of a table with distinct identifiers is the only one under its own, so erasing it and
setting it change nothing before it and nothing behind it. -/
theorem Distinct.split {t : Table κ α} (distinct : t.Distinct) {k : κ} {v : α}
    (h : (k, v) ∈ t.entries) :
    ∃ before after, t.entries = before ++ (k, v) :: after ∧
      (t.erase k).entries = before ++ after ∧
      ∀ w, (t.set k w).entries = before ++ (k, w) :: after := by
  obtain ⟨before, after, hSplit⟩ := List.append_of_mem h
  have hKeys : (before.map Prod.fst ++ k :: after.map Prod.fst).Nodup := by
    simpa [Distinct, keys, hSplit] using distinct
  have hBefore : ∀ e ∈ before, e.1 ≠ k := by
    intro e he heq
    have hDisjoint := List.disjoint_of_nodup_append hKeys
    exact hDisjoint (List.mem_map_of_mem he) (by simp [heq])
  have hAfter : ∀ e ∈ after, e.1 ≠ k := by
    intro e he heq
    have hTail := (List.nodup_cons.1 (List.Nodup.of_append_right hKeys)).1
    exact hTail (List.mem_map.2 ⟨e, he, heq⟩)
  have hKeep (w : α) (es : List (κ × α)) (hes : ∀ e ∈ es, e.1 ≠ k) :
      (es.map fun e => if e.1 = k then (e.1, w) else e) = es := by
    calc
      _ = es.map id := List.map_congr_left fun e he => if_neg (hes e he)
      _ = es := List.map_id es
  have hFilter (es : List (κ × α)) (hes : ∀ e ∈ es, e.1 ≠ k) :
      (es.filter fun e => e.1 ≠ k) = es :=
    List.filter_eq_self.2 fun e he => by simpa using hes e he
  refine ⟨before, after, hSplit, ?_, fun w => ?_⟩
  · simp only [erase, hSplit, List.filter_append, hFilter before hBefore]
    rw [List.filter_cons_of_neg (by simp), hFilter after hAfter]
  · simp only [set, hSplit, List.map_append, List.map_cons, ↓reduceIte, hKeep w before hBefore,
      hKeep w after hAfter]

/-- With distinct keys, what is entered under a key is found under it. -/
theorem Distinct.get?_of_mem {t : Table κ α} (distinct : t.Distinct) {k : κ} {v : α}
    (h : (k, v) ∈ t.entries) : t.get? k = some v := by
  obtain ⟨w, hGet⟩ := exists_get?_of_mem_keys (mem_keys_of_mem_entries h)
  have hPair := List.inj_on_of_nodup_map distinct (mem_entries_of_get? hGet) h rfl
  rw [hGet, (Prod.mk.inj hPair).2]

/-- With distinct keys, the entries are what is found. -/
theorem Distinct.mem_entries_iff {t : Table κ α} (distinct : t.Distinct) {k : κ} {v : α} :
    (k, v) ∈ t.entries ↔ t.get? k = some v :=
  ⟨distinct.get?_of_mem, mem_entries_of_get?⟩

omit [DecidableEq κ] in
theorem distinct_empty : (empty : Table κ α).Distinct := List.nodup_nil

omit [DecidableEq κ] in
/-- A fresh key keeps the keys distinct. -/
theorem Distinct.insert {t : Table κ α} (distinct : t.Distinct) {k : κ} (v : α)
    (h : k ∉ t.keys) : (t.insert k v).Distinct := by
  rw [Distinct, keys_insert]
  refine List.nodup_append.2 ⟨distinct, List.nodup_singleton k, ?_⟩
  rintro j hj i hi rfl
  exact h (List.mem_singleton.1 hi ▸ hj)

/-- Setting a key keeps the keys distinct. -/
theorem Distinct.set {t : Table κ α} (distinct : t.Distinct) (k : κ) (v : α) :
    (t.set k v).Distinct := by
  rw [Distinct, keys_set]
  exact distinct

/-- Erasing a key keeps the keys distinct. -/
theorem Distinct.erase {t : Table κ α} (distinct : t.Distinct) (k : κ) : (t.erase k).Distinct := by
  rw [Distinct, keys_erase]
  exact List.Nodup.filter _ distinct

theorem erase_of_not_mem {t : Table κ α} {k : κ} (h : k ∉ t.keys) : t.erase k = t := by
  obtain ⟨entries⟩ := t
  have hKeep : (entries.filter fun e => e.1 ≠ k) = entries :=
    List.filter_eq_self.2 fun e he => by
      simpa using fun heq : e.1 = k => h (List.mem_map.2 ⟨e, he, heq⟩)
  rw [erase, hKeep]

/-- Entering under a new identifier and erasing again leaves no trace. -/
theorem erase_insert {t : Table κ α} {k : κ} (v : α) (h : k ∉ t.keys) :
    (t.insert k v).erase k = t := by
  calc
    _ = t.erase k := by simp [Table.erase, Table.insert]
    _ = t := erase_of_not_mem h

theorem erase_set (t : Table κ α) (k : κ) (v : α) : (t.set k v).erase k = t.erase k := by
  obtain ⟨entries⟩ := t
  simp only [Table.erase, Table.set, Table.mk.injEq]
  induction entries with
  | nil => rfl
  | cons e es ih =>
      simp only [decide_not] at ih ⊢
      by_cases he : e.1 = k <;> simp [he, ih]

theorem erase_insert_of_ne (t : Table κ α) {j k : κ} (v : α) (h : k ≠ j) :
    (t.insert k v).erase j = (t.erase j).insert k v := by
  simp [erase, Table.insert, List.filter_append, h]

end ConsoleHost.Table
