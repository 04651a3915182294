import ConsoleHost.Toml.Table
import ConsoleHost.Toml.Number

/-!
Tables that are as a document may have them: no table repeats a key, however deep it lies, and integers
fit into 64 signed bits. Tables grow line by line, and every change that a line makes keeps them so.
-/

namespace ConsoleHost.Toml

/-- No table in this value repeats a key, and its integers are in range. -/
inductive Item.Proper : Item → Prop where
  | string (s : String) : Proper (.string s)
  | integer {n : Int} (hRange : inRange n = true) : Proper (.integer n)
  | float : Proper .float
  | boolean (b : Bool) : Proper (.boolean b)
  | dateTime : Proper .dateTime
  | array {items : List Item} (hItems : ∀ item ∈ items, Proper item) : Proper (.array items)
  | table {origin : Origin} {entries : List (String × Item)}
      (hKeys : (entries.map Prod.fst).Nodup) (hItems : ∀ entry ∈ entries, Proper entry.2) :
      Proper (.table origin entries)
  | tables {elements : List (List (String × Item))}
      (hKeys : ∀ t ∈ elements, (t.map Prod.fst).Nodup)
      (hItems : ∀ t ∈ elements, ∀ entry ∈ t, Proper entry.2) : Proper (.tables elements)

namespace Table

variable {t t' : Table} {key other : String} {item : Item}

/-- `Item.Proper` for the entries of a table. -/
structure Proper (t : Table) : Prop where
  keys_nodup : (t.map Prod.fst).Nodup
  items : ∀ entry ∈ t, entry.2.Proper

theorem Proper.nil : Proper [] := ⟨List.nodup_nil, by simp⟩

theorem Proper.toItem (proper : t.Proper) (origin : Origin) : (Item.table origin t).Proper :=
  .table proper.keys_nodup proper.items

theorem proper_of_table {origin : Origin} (h : (Item.table origin t).Proper) : t.Proper := by
  cases h with
  | table hKeys hItems => exact ⟨hKeys, hItems⟩

theorem proper_of_mem_tables {elements : List Table} (h : (Item.tables elements).Proper)
    (ht : t ∈ elements) : t.Proper := by
  cases h with
  | tables hKeys hItems => exact ⟨hKeys t ht, hItems t ht⟩

/-- Proper tables are proper under a repeated header. -/
theorem tables_proper {elements : List Table} (h : ∀ t ∈ elements, Proper t) :
    (Item.tables elements).Proper :=
  .tables (fun t ht => (h t ht).keys_nodup) fun t ht => (h t ht).items

/-- An entry added under a free key is found there, and every other key keeps what it had. -/
theorem lookup_append_entry (hFree : t.lookup key = none) :
    List.lookup other (t ++ [(key, item)]) = if other = key then some item else t.lookup other := by
  rw [List.lookup_append]
  by_cases hKey : other = key
  · simp [hKey, hFree]
  · simp [hKey, List.lookup_cons, beq_eq_false_iff_ne.mpr hKey]

@[simp] theorem map_fst_replace : (t.replace key item).map Prod.fst = t.map Prod.fst := by
  rw [replace, List.map_map]
  refine List.map_congr_left fun entry _ => ?_
  by_cases hKey : entry.1 = key <;> simp [hKey]

/-- Replacing changes what is found under one key, if anything is, and nothing else. -/
theorem lookup_replace :
    (t.replace key item).lookup other =
      (t.lookup other).map fun old => if other = key then item else old := by
  induction t with
  | nil => rfl
  | cons entry t ih =>
    obtain ⟨name, old⟩ := entry
    have hCons : replace ((name, old) :: t) key item =
        (if name = key then (key, item) else (name, old)) :: replace t key item := rfl
    by_cases hOther : other = name
    · subst hOther
      rw [hCons]
      by_cases hName : other = key <;> simp [hName]
    · have hMissed : (other == name) = false := beq_eq_false_iff_ne.mpr hOther
      rw [List.lookup_cons, hMissed, hCons, ← ih]
      by_cases hName : name = key
      · simp [← hName, List.lookup_cons, hMissed]
      · simp [hName, List.lookup_cons, hMissed]

namespace Proper

/-- What is found in a proper table is proper. -/
theorem item_of_lookup (proper : t.Proper) (h : t.lookup key = some item) : item.Proper := by
  obtain ⟨before, after, rfl, -⟩ := List.lookup_eq_some_iff.mp h
  exact proper.items (key, item) (by simp)

/-- A proper value may be added under a free key. -/
theorem append (proper : t.Proper) (hFree : t.lookup key = none) (hItem : item.Proper) :
    Proper (t ++ [(key, item)]) := by
  refine ⟨?_, ?_⟩
  · have hNew : key ∉ t.map Prod.fst := by
      rintro hUsed
      obtain ⟨entry, hEntry, rfl⟩ := List.mem_map.mp hUsed
      simpa using List.lookup_eq_none_iff.mp hFree entry hEntry
    rw [List.map_append]
    exact List.nodup_append.mpr
      ⟨proper.keys_nodup, by simp, fun name hName new hLast hSame => hNew (by simp_all)⟩
  · intro entry hEntry
    rcases List.mem_append.mp hEntry with hOld | hLast
    · exact proper.items entry hOld
    · rw [List.mem_singleton.mp hLast]
      exact hItem

/-- A value may be replaced by a proper one. -/
theorem replace (proper : t.Proper) (hItem : item.Proper) : (t.replace key item).Proper := by
  refine ⟨by simpa using proper.keys_nodup, ?_⟩
  intro entry hEntry
  obtain ⟨old, hOld, rfl⟩ := List.mem_map.mp hEntry
  by_cases hKey : old.1 = key
  · simpa [hKey] using hItem
  · simpa [hKey] using proper.items old hOld

end Proper

variable {route : Route} {change : Origin → Table → Option Table}

/-- What a route does at its first key: it makes a table, enters one that it may enter, or enters the
last of the tables under a repeated header. -/
theorem changeAt?_cons {keys : List String} {origin : Origin}
    (h : changeAt? route change (key :: keys) origin t = some t') :
    (∃ inner, t.lookup key = none ∧ changeAt? route change keys route.origin [] = some inner ∧
      t' = t ++ [(key, .table route.origin inner)]) ∨
    (∃ (at_ : Origin) (inner inner' : Table), t.lookup key = some (.table at_ inner) ∧
      route.enters at_ ∧ changeAt? route change keys at_ inner = some inner' ∧
      t' = t.replace key (.table at_ inner')) ∨
    (∃ (front : List Table) (last last' : Table), t.lookup key = some (.tables (front ++ [last])) ∧
      changeAt? route change keys .header last = some last' ∧
      t' = t.replace key (.tables (front ++ [last']))) := by
  rw [changeAt?] at h
  cases hLookup : t.lookup key with
  | none =>
    simp only [hLookup, Option.map_eq_some_iff] at h
    obtain ⟨inner, hInner, rfl⟩ := h
    exact .inl ⟨inner, rfl, hInner, rfl⟩
  | some item =>
    cases item with
    | table at_ inner =>
      simp only [hLookup] at h
      split at h
      · next hEnters =>
        obtain ⟨inner', hInner, rfl⟩ := Option.map_eq_some_iff.mp h
        exact .inr (.inl ⟨at_, inner, inner', rfl, hEnters, hInner, rfl⟩)
      · cases h
    | tables elements =>
      simp only [hLookup] at h
      obtain ⟨last, hLast, h⟩ := Option.bind_eq_some_iff.mp h
      obtain ⟨last', hChange, rfl⟩ := Option.map_eq_some_iff.mp h
      obtain ⟨front, rfl⟩ := List.getLast?_eq_some_iff.mp hLast
      exact .inr (.inr ⟨front, last, last', rfl, hChange, by simp⟩)
    | _ => simp [hLookup] at h

namespace Proper

/-- A change that keeps tables proper may be made at the end of any route. -/
theorem changeAt {keys : List String} {origin : Origin} (proper : t.Proper)
    (hChange : ∀ at_ inner inner', Proper inner → change at_ inner = some inner' → Proper inner')
    (h : changeAt? route change keys origin t = some t') : t'.Proper := by
  induction keys generalizing origin t t' with
  | nil => exact hChange origin t t' proper h
  | cons key keys ih =>
    rcases changeAt?_cons h with ⟨inner, hFree, hInner, rfl⟩ | ⟨at_, inner, inner', hUsed, -, hInner, rfl⟩ |
      ⟨front, last, last', hUsed, hLast, rfl⟩
    · exact proper.append hFree ((ih .nil hInner).toItem _)
    · have hOld : Proper inner := proper_of_table (proper.item_of_lookup hUsed)
      exact proper.replace ((ih hOld hInner).toItem _)
    · have hOld : ∀ t ∈ front ++ [last], Proper t := fun t ht =>
        proper_of_mem_tables (proper.item_of_lookup hUsed) ht
      refine proper.replace (tables_proper fun t ht => ?_)
      rcases List.mem_append.mp ht with hFront | hNew
      · exact hOld t (by simp [hFront])
      · rw [List.mem_singleton.mp hNew]
        exact ih (hOld last (by simp)) hLast

theorem add (proper : t.Proper) (hItem : item.Proper) (h : t.add? key item = some t') :
    t'.Proper := by
  rw [add?] at h
  split at h
  · cases h
  · next hFree =>
    cases h
    exact proper.append (Option.not_isSome_iff_eq_none.mp hFree) hItem

/-- Assigning a proper value keeps a table proper. -/
theorem assign {key : DottedKey} (proper : t.Proper) (hItem : item.Proper)
    (h : t.assign? key item = some t') : t'.Proper := by
  refine proper.changeAt (fun at_ inner inner' hInner hAdd => ?_) h
  split at hAdd
  · exact hInner.add hItem hAdd
  · cases hAdd

/-- Opening a table keeps the tables around it proper. -/
theorem openTable {key : DottedKey} (proper : t.Proper) (h : t.openTable? key = some t') :
    t'.Proper := by
  refine proper.changeAt (fun at_ parent parent' hParent hOpen => ?_) h
  split at hOpen
  · next hFree =>
    cases hOpen
    exact hParent.append hFree (nil.toItem _)
  · next inner hUsed =>
    cases hOpen
    exact hParent.replace ((proper_of_table (hParent.item_of_lookup hUsed)).toItem _)
  · cases hOpen

theorem openElement {key : DottedKey} (proper : t.Proper) (h : t.openElement? key = some t') :
    t'.Proper := by
  refine proper.changeAt (fun at_ parent parent' hParent hOpen => ?_) h
  split at hOpen
  · next hFree =>
    cases hOpen
    exact hParent.append hFree (tables_proper (by simp [nil]))
  · next elements hUsed =>
    cases hOpen
    refine hParent.replace (tables_proper fun t ht => ?_)
    rcases List.mem_append.mp ht with hOld | hNew
    · exact proper_of_mem_tables (hParent.item_of_lookup hUsed) hOld
    · rw [List.mem_singleton.mp hNew]
      exact nil
  · cases hOpen

/-- Assignments in braces keep the table between them proper. -/
theorem foldlM_assign {assignments : List (DottedKey × Item)} (proper : t.Proper)
    (hItems : ∀ a ∈ assignments, a.2.Proper)
    (h : assignments.foldlM (fun t (key, item) => assign? t key item) t = some t') : t'.Proper := by
  induction assignments generalizing t with
  | nil =>
    cases h
    exact proper
  | cons a assignments ih =>
    rw [List.foldlM_cons] at h
    obtain ⟨middle, hMiddle, h⟩ := Option.bind_eq_some_iff.mp h
    obtain ⟨hItem, hItems⟩ := List.forall_mem_cons.mp hItems
    exact ih (proper.assign hItem hMiddle) hItems h

end Proper

end Table

end ConsoleHost.Toml
