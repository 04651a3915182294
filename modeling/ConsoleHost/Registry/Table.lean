/-!
Tables of values under identifiers, in the order in which the identifiers were entered. An identifier
that is entered is expected to be new. Each operation has one lemma that says what it does to
look-up.
-/

namespace ConsoleHost

/-- Values under identifiers, oldest first. -/
structure Table (κ α : Type) where
  entries : List (κ × α)

namespace Table

variable {κ α : Type} [DecidableEq κ]

instance [DecidableEq α] : DecidableEq (Table κ α) := fun s t =>
  decidable_of_iff (s.entries = t.entries) ⟨fun h => by cases s; cases t; simp_all, fun h => h ▸ rfl⟩

def empty : Table κ α := ⟨[]⟩

def keys (t : Table κ α) : List κ := t.entries.map Prod.fst

def values (t : Table κ α) : List α := t.entries.map Prod.snd

/-- The value of the oldest entry under `k`. -/
def get? (t : Table κ α) (k : κ) : Option α :=
  (t.entries.find? fun e => e.1 = k).map Prod.snd

/-- Enter a value under a new identifier. -/
def insert (t : Table κ α) (k : κ) (v : α) : Table κ α :=
  ⟨t.entries ++ [(k, v)]⟩

def erase (t : Table κ α) (k : κ) : Table κ α :=
  ⟨t.entries.filter fun e => e.1 ≠ k⟩

def set (t : Table κ α) (k : κ) (v : α) : Table κ α :=
  ⟨t.entries.map fun e => if e.1 = k then (e.1, v) else e⟩

omit [DecidableEq κ] in
theorem keys_insert (t : Table κ α) (k : κ) (v : α) : (t.insert k v).keys = t.keys ++ [k] := by
  simp [keys, insert]

theorem keys_set (t : Table κ α) (k : κ) (v : α) : (t.set k v).keys = t.keys := by
  simp only [keys, set, List.map_map]
  refine List.map_congr_left fun e _ => ?_
  by_cases h : e.1 = k <;> simp [h]

theorem keys_erase (t : Table κ α) (k : κ) :
    (t.erase k).keys = t.keys.filter (fun j => j ≠ k) := by
  simp [keys, erase, List.filter_map, Function.comp_def]

theorem get?_eq_none_iff (t : Table κ α) (k : κ) : t.get? k = none ↔ k ∉ t.keys := by
  simp only [get?, keys, Option.map_eq_none_iff, List.find?_eq_none, decide_eq_true_eq,
    List.mem_map, not_exists, not_and]

theorem get?_insert_self (t : Table κ α) {k : κ} (v : α) (h : k ∉ t.keys) :
    (t.insert k v).get? k = some v := by
  have hNone := (t.get?_eq_none_iff k).2 h
  simp only [get?, Option.map_eq_none_iff] at hNone
  simp [get?, insert, List.find?_append, hNone]

theorem get?_insert_of_ne (t : Table κ α) {j k : κ} (v : α) (h : k ≠ j) :
    (t.insert k v).get? j = t.get? j := by
  simp [get?, insert, List.find?_append, h]

theorem get?_erase_self (t : Table κ α) (k : κ) : (t.erase k).get? k = none := by
  rw [get?_eq_none_iff, keys_erase]
  simp

theorem get?_erase_of_ne (t : Table κ α) {j k : κ} (h : j ≠ k) :
    (t.erase k).get? j = t.get? j := by
  simp only [get?, erase, List.find?_filter]
  congr 2
  funext e
  by_cases he : e.1 = j
  · simp [he, h]
  · simp [he]

theorem get?_set_of_ne (t : Table κ α) {j k : κ} (v : α) (h : j ≠ k) :
    (t.set k v).get? j = t.get? j := by
  obtain ⟨entries⟩ := t
  simp only [get?, set]
  induction entries with
  | nil => rfl
  | cons e es ih =>
      by_cases hk : e.1 = k
      · have hj : e.1 ≠ j := fun he => h (he.symm.trans hk)
        simpa [hk, Ne.symm h] using ih
      · by_cases hj : e.1 = j
        · simp [hj, h]
        · simpa [hk, hj] using ih

theorem get?_set_self (t : Table κ α) {k : κ} (v : α) (h : k ∈ t.keys) :
    (t.set k v).get? k = some v := by
  obtain ⟨entries⟩ := t
  simp only [keys] at h
  simp only [get?, set]
  induction entries with
  | nil => cases h
  | cons d ds ih =>
      by_cases hd : d.1 = k
      · simp [hd]
      · have hmem : k ∈ ds.map Prod.fst := by
          rcases List.mem_cons.1 h with rfl | h
          · exact absurd rfl hd
          · exact h
        simpa [hd] using ih hmem

end Table

end ConsoleHost
