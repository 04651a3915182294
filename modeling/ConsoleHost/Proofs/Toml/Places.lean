import ConsoleHost.Proofs.Toml.Paths

/-!
Where a document keeps what its lines say. Every line has a full name, which the header in force begins,
and a finished document holds exactly the values that its lines assign, under their full names and each
in a place of its own. By induction over the lines, since each of them adds its own value or none.
-/

namespace ConsoleHost.Toml

namespace Statement

/-- The full name of what a line assigns or opens, when these are the keys of the header in force. -/
def name (keys : List String) : Statement → List String
  | assignment key _ => keys ++ (key.front ++ [key.last])
  | header key | repeatedHeader key => key.front ++ [key.last]

/-- The keys of the header in force behind a line. -/
def keysBehind (keys : List String) : Statement → List String
  | assignment _ _ => keys
  | header key | repeatedHeader key => key.front ++ [key.last]

end Statement

/-- Lines, each with its full name. -/
def named : List String → List Statement → List (List String × Statement)
  | _, [] => []
  | keys, line :: lines => (line.name keys, line) :: named (line.keysBehind keys) lines

/-- The values that lines assign, each with its full name. -/
def assigned (keys : List String) (lines : List Statement) : List (List String × Item) :=
  (named keys lines).filterMap fun (name, line) => line.item?.map fun item => (name, item)

def Draft.item (d : Draft) : Item := .table .header d.root

namespace Draft

variable {d d' : Draft}

/-- A header puts its keys in force. -/
theorem keys_of_add? {line : Statement} (h : d.add? line = some d') :
    d'.keys = line.keysBehind d.keys := by
  cases line <;> obtain ⟨root, -, rfl⟩ := Option.map_eq_some_iff.mp h <;> rfl

/-- An assignment adds its value under the full name. -/
theorem add?_gains {line : Statement} {item : Item} (h : d.add? line = some d')
    (hItem : line.item? = some item) :
    ∃ path, names path = line.name d.keys ∧ Gains d.item d'.item path item := by
  cases line with
  | assignment key item =>
    cases hItem
    obtain ⟨root, hRoot, rfl⟩ := Option.map_eq_some_iff.mp h
    obtain ⟨path, -, inner, inner', hNames, hAssign, acts⟩ := Table.changeAt?_acts (by simp) hRoot
    obtain ⟨step, rest, hBehind, gains⟩ := Table.assign?_gains hAssign
    exact ⟨path ++ step :: rest, by rw [names_append, hNames, hBehind, Statement.name], acts.gains gains⟩
  | header key => cases hItem
  | repeatedHeader key => cases hItem

/-- A header adds no value. -/
theorem add?_keeps {line : Statement} (h : d.add? line = some d') (hNone : line.item? = none) :
    Keeps d.item d'.item := by
  cases line with
  | assignment key item => cases hNone
  | header key =>
    obtain ⟨root, hRoot, rfl⟩ := Option.map_eq_some_iff.mp h
    exact Table.openTable?_keeps hRoot
  | repeatedHeader key =>
    obtain ⟨root, hRoot, rfl⟩ := Option.map_eq_some_iff.mp h
    exact Table.openElement?_keeps hRoot

end Draft

theorem mem_of_mem_named {keys : List String} {lines : List Statement}
    {p : List String × Statement} (h : p ∈ named keys lines) : p.2 ∈ lines := by
  induction lines generalizing keys with
  | nil => simp [named] at h
  | cons line lines ih =>
    rcases List.mem_cons.mp h with rfl | h
    · simp
    · exact List.mem_cons_of_mem _ (ih h)

/-- Whatever lines assign is settled. -/
theorem settled_of_assigned {lines : List Statement} (sound : ∀ line ∈ lines, line.Sound)
    {keys name : List String} {item : Item} (h : (name, item) ∈ assigned keys lines) :
    item.isSettled = true := by
  obtain ⟨p, hp, hItem⟩ := List.mem_filterMap.mp h
  obtain ⟨read, hRead, hEq⟩ := Option.map_eq_some_iff.mp hItem
  cases hEq
  exact (sound p.2 (mem_of_mem_named hp) item hRead).settled

/-- What lines add to a value: each of the placed values, in a place of its own. -/
structure Adds (x x' : Item) (placed : List (List Step × Item)) : Prop where
  free : ∀ p ∈ placed, ∀ item, item.isSettled = true → x.at? p.1 ≠ some item
  apart : (placed.map Prod.fst).Nodup
  holds_iff : ∀ q other, other.isSettled = true →
    (x'.at? q = some other ↔
      x.at? q = some other ∨ ∃ p ∈ placed, ∃ rest, q = p.1 ++ rest ∧ p.2.at? rest = some other)

namespace Adds

variable {x y z item : Item} {placed : List (List Step × Item)}

theorem nil : Adds x x [] := ⟨by simp, by simp, by simp⟩

/-- Headers may come before lines that add values. -/
theorem keeps (hKeeps : Keeps x y) (adds : Adds y z placed) : Adds x z placed where
  free p hp item hItem hHeld := adds.free p hp item hItem ((hKeeps _ _ hItem).mpr hHeld)
  apart := adds.apart
  holds_iff q other hOther := by rw [adds.holds_iff q other hOther, hKeeps q other hOther]

/-- A line that adds a settled value, and lines after it. Its place is not used again, since what the
lines after it add is free of settled values. -/
theorem gains {path : List Step} (gains : Gains x y path item) (hItem : item.isSettled = true)
    (adds : Adds y z placed) : Adds x z ((path, item) :: placed) where
  free := by
    intro p hp old hOld hHeld
    rcases List.mem_cons.mp hp with rfl | hp
    · simp [gains.free] at hHeld
    · exact adds.free p hp old hOld ((gains.holds_iff _ _ hOld).mpr (.inl hHeld))
  apart := by
    have hHeld : y.at? path = some item := (gains.holds_iff _ _ hItem).mpr (.inr ⟨[], by simp, rfl⟩)
    refine List.nodup_cons.mpr ⟨?_, adds.apart⟩
    intro hAgain
    obtain ⟨p, hp, rfl⟩ := List.mem_map.mp hAgain
    exact adds.free p hp item hItem hHeld
  holds_iff q other hOther := by
    rw [adds.holds_iff q other hOther, gains.holds_iff q other hOther, or_assoc]
    simp only [List.mem_cons, or_and_right, exists_or, exists_eq_left]

end Adds

/-- Lines that are accepted add exactly the values that they assign, under their full names. -/
theorem foldlM_add?_adds {lines : List Statement} {d d' : Draft} (sound : ∀ line ∈ lines, line.Sound)
    (h : lines.foldlM Draft.add? d = some d') :
    ∃ placed, placed.map (fun p => (names p.1, p.2)) = assigned d.keys lines ∧
      Adds d.item d'.item placed := by
  induction lines generalizing d with
  | nil =>
    cases h
    exact ⟨[], rfl, .nil⟩
  | cons line lines ih =>
    rw [List.foldlM_cons] at h
    obtain ⟨middle, hMiddle, h⟩ := Option.bind_eq_some_iff.mp h
    obtain ⟨hLine, hLines⟩ := List.forall_mem_cons.mp sound
    obtain ⟨placed, hPlaced, adds⟩ := ih hLines h
    rw [Draft.keys_of_add? hMiddle] at hPlaced
    cases hItem : line.item? with
    | none =>
      exact ⟨placed, by simpa [assigned, named, hItem] using hPlaced,
        adds.keeps (Draft.add?_keeps hMiddle hItem)⟩
    | some item =>
      obtain ⟨path, hNames, gains⟩ := Draft.add?_gains hMiddle hItem
      exact ⟨(path, item) :: placed, by simpa [assigned, named, hItem, hNames] using hPlaced,
        adds.gains gains (hLine item hItem).settled⟩

section

variable {bound : Nat} {cs : List Char} {lines : List Statement} {t : Table}
  (hLines : statements? bound cs = some lines) (hTable : Table.ofStatements? lines = some t)
include hLines hTable

/-- A document holds a settled value in a place exactly if one of its lines assigns it there, or
assigns a value that it lies in. No two lines assign a value in the same place. -/
theorem ofStatements?_holds_iff :
    ∃ placed : List (List Step × Item), (placed.map Prod.fst).Nodup ∧
      placed.map (fun p => (names p.1, p.2)) = assigned [] lines ∧
      ∀ q item, item.isSettled = true →
        ((Item.table .header t).at? q = some item ↔
          ∃ p ∈ placed, ∃ rest, q = p.1 ++ rest ∧ p.2.at? rest = some item) := by
  obtain ⟨d, hRun, rfl⟩ := Option.map_eq_some_iff.mp hTable
  obtain ⟨placed, hPlaced, adds⟩ := foldlM_add?_adds (statements?_sound hLines) hRun
  refine ⟨placed, adds.apart, hPlaced, fun q item hItem => ?_⟩
  have hEmpty : Draft.empty.item.at? q ≠ some item := by
    cases q with
    | nil =>
      rintro ⟨⟩
      simp [Draft.item, Item.isSettled] at hItem
    | cons step rest => simp [Draft.item, Draft.empty, Item.at?_table_nil]
  exact (adds.holds_iff q item hItem).trans (or_iff_right hEmpty)

/-- A line that assigns a value puts it where its full name says. -/
theorem at?_of_assigned {keys : List String} {item : Item}
    (hAssigned : (keys, item) ∈ assigned [] lines) :
    item.isSettled = true ∧
      ∃ path, names path = keys ∧ (Item.table .header t).at? path = some item := by
  have hSettled := settled_of_assigned (statements?_sound hLines) hAssigned
  obtain ⟨placed, -, hPlaced, hHolds⟩ := ofStatements?_holds_iff hLines hTable
  rw [← hPlaced] at hAssigned
  obtain ⟨p, hp, hEq⟩ := List.mem_map.mp hAssigned
  cases hEq
  exact ⟨hSettled, p.1, rfl, (hHolds _ _ hSettled).mpr ⟨p, hp, [], by simp, rfl⟩⟩

end

/-! ### Values under one key or two -/

variable {t : Table}

/-- A settled value behind no further key is the value itself: a table under a repeated header is not
settled. -/
theorem eq_of_at? {x item : Item} {path : List Step} (hItem : item.isSettled = true)
    (hNames : names path = []) (h : x.at? path = some item) : x = item := by
  rcases path with - | ⟨key | index, path⟩
  · simpa using h
  · simp at hNames
  · rw [Item.at?_cons] at h
    obtain ⟨y, hChild, h⟩ := Option.bind_eq_some_iff.mp h
    obtain ⟨entries, rfl⟩ : ∃ entries, y = .table .header entries := by
      cases x <;> simp [Item.child?] at hChild
      exact ⟨_, hChild.choose_spec.2.symm⟩
    rcases path with - | ⟨key | index, path⟩
    · cases h
      simp [Item.isSettled] at hItem
    · simp at hNames
    · simp [Item.at?_cons, Item.child?] at h

/-- A value under a key of the document. -/
theorem lookup_of_at? {item : Item} {path : List Step} {key : String} (hItem : item.isSettled = true)
    (hNames : names path = [key]) (h : (Item.table .header t).at? path = some item) :
    t.lookup key = some item := by
  rcases path with - | ⟨first | index, path⟩
  · simp at hNames
  · simp only [names_entry, List.cons.injEq] at hNames
    obtain ⟨rfl, hRest⟩ := hNames
    rw [Item.at?_cons] at h
    obtain ⟨y, hChild, h⟩ := Option.bind_eq_some_iff.mp h
    rw [← eq_of_at? hItem hRest h]
    exact hChild
  · simp [Item.at?_cons, Item.child?] at h

/-- A value one key further lies in a table, unless the key stands for several of them. -/
theorem lookup_lookup_of_at? {item : Item} {path : List Step} {key name : String}
    (hItem : item.isSettled = true) (hNames : names path = [key, name])
    (h : (Item.table .header t).at? path = some item) :
    (∃ origin entries, t.lookup key = some (.table origin entries) ∧
      entries.lookup name = some item) ∨
    ∃ first rest, t.lookup key = some (.tables (first :: rest)) := by
  rcases path with - | ⟨first | index, path⟩
  · simp at hNames
  · simp only [names_entry, List.cons.injEq] at hNames
    obtain ⟨rfl, hRest⟩ := hNames
    rw [Item.at?_cons] at h
    obtain ⟨y, hChild, h⟩ := Option.bind_eq_some_iff.mp h
    have hFound : t.lookup first = some y := hChild
    rcases path with - | ⟨second | index, path⟩
    · simp at hRest
    · simp only [names_entry, List.cons.injEq] at hRest
      obtain ⟨rfl, hEnd⟩ := hRest
      rw [Item.at?_cons] at h
      obtain ⟨z, hInner, h⟩ := Option.bind_eq_some_iff.mp h
      rw [eq_of_at? hItem hEnd h] at hInner
      cases y with
      | table origin entries => exact .inl ⟨origin, entries, hFound, hInner⟩
      | _ => cases hInner
    · rw [Item.at?_cons] at h
      obtain ⟨z, hInner, -⟩ := Option.bind_eq_some_iff.mp h
      cases y with
      | tables elements =>
        cases elements with
        | nil => simp [Item.child?] at hInner
        | cons one others => exact .inr ⟨one, others, hFound⟩
      | _ => cases hInner
  · simp [Item.at?_cons, Item.child?] at h

/-! ### Keys of the document that no line mentions -/

namespace Table

variable {t t' : Table} {route : Route} {change : Origin → Table → Option Table} {other : String}

/-- A route leaves every key alone but its first one. An empty route does as its change does. -/
theorem changeAt?_lookup {keys : List String} {origin : Origin}
    (h : changeAt? route change keys origin t = some t') (hOther : keys.head? ≠ some other)
    (hChange : keys = [] → ∀ inner', change origin t = some inner' → inner'.lookup other = t.lookup other) :
    t'.lookup other = t.lookup other := by
  cases keys with
  | nil => exact hChange rfl t' h
  | cons key keys =>
    have hKey : other ≠ key := fun hSame => hOther (by simp [hSame])
    rcases changeAt?_cons h with ⟨made, hFree, -, rfl⟩ | ⟨_, entered, entered', -, -, -, rfl⟩ |
      ⟨front, last, last', -, -, rfl⟩
    · simp [lookup_append_entry hFree, hKey]
    · simp [lookup_replace, hKey]
    · simp [lookup_replace, hKey]

/-- The route to a dotted key, where the change is about its last part. -/
theorem changeAt?_front_lookup {key : DottedKey} {origin : Origin}
    (h : changeAt? route change key.front origin t = some t')
    (hOther : (key.front ++ [key.last]).head? ≠ some other)
    (hChange : ∀ at_ inner inner', change at_ inner = some inner' → other ≠ key.last →
      inner'.lookup other = inner.lookup other) : t'.lookup other = t.lookup other := by
  refine changeAt?_lookup h (fun hHead => hOther (by simp [List.head?_append, hHead])) ?_
  intro hFront inner' hInner
  exact hChange origin t inner' hInner fun hSame => hOther (by simp [hFront, hSame])

theorem assign?_lookup {key : DottedKey} {item : Item} (h : t.assign? key item = some t')
    (hOther : (key.front ++ [key.last]).head? ≠ some other) : t'.lookup other = t.lookup other := by
  refine changeAt?_front_lookup h hOther fun at_ inner inner' hAdd hKey => ?_
  obtain ⟨-, hAdd⟩ := Option.ite_none_right_eq_some.mp hAdd
  obtain ⟨hUsed, hAdd⟩ := Option.ite_none_left_eq_some.mp hAdd
  cases hAdd
  simp [lookup_append_entry (Option.not_isSome_iff_eq_none.mp hUsed), hKey]

theorem openTable?_lookup {key : DottedKey} (h : t.openTable? key = some t')
    (hOther : (key.front ++ [key.last]).head? ≠ some other) : t'.lookup other = t.lookup other := by
  refine changeAt?_front_lookup h hOther fun at_ inner inner' hOpen hKey => ?_
  split at hOpen
  · next hFree =>
    cases hOpen
    simp [lookup_append_entry hFree, hKey]
  · cases hOpen
    simp [lookup_replace, hKey]
  · cases hOpen

theorem openElement?_lookup {key : DottedKey} (h : t.openElement? key = some t')
    (hOther : (key.front ++ [key.last]).head? ≠ some other) : t'.lookup other = t.lookup other := by
  refine changeAt?_front_lookup h hOther fun at_ inner inner' hOpen hKey => ?_
  split at hOpen
  · next hFree =>
    cases hOpen
    simp [lookup_append_entry hFree, hKey]
  · cases hOpen
    simp [lookup_replace, hKey]
  · cases hOpen

end Table

/-- A line changes only the key that its full name begins with. -/
theorem Draft.lookup_of_add? {d d' : Draft} {line : Statement} {other : String}
    (h : d.add? line = some d') (hOther : (line.name d.keys).head? ≠ some other) :
    d'.root.lookup other = d.root.lookup other := by
  cases line with
  | assignment key item =>
    obtain ⟨root, hRoot, rfl⟩ := Option.map_eq_some_iff.mp h
    refine Table.changeAt?_lookup hRoot
      (fun hHead => hOther (by simp [Statement.name, List.head?_append, hHead])) ?_
    intro hKeys inner' hAssign
    exact Table.assign?_lookup hAssign (by simpa [Statement.name, hKeys] using hOther)
  | header key =>
    obtain ⟨root, hRoot, rfl⟩ := Option.map_eq_some_iff.mp h
    exact Table.openTable?_lookup hRoot hOther
  | repeatedHeader key =>
    obtain ⟨root, hRoot, rfl⟩ := Option.map_eq_some_iff.mp h
    exact Table.openElement?_lookup hRoot hOther

/-- Lines whose names all begin with other keys leave what a key of the document has. -/
theorem Draft.lookup_of_foldlM_add? {lines : List Statement} {d d' : Draft} {other : String}
    (h : lines.foldlM Draft.add? d = some d')
    (hOther : ∀ p ∈ named d.keys lines, p.1.head? ≠ some other) :
    d'.root.lookup other = d.root.lookup other := by
  induction lines generalizing d with
  | nil =>
    cases h
    rfl
  | cons line lines ih =>
    rw [List.foldlM_cons] at h
    obtain ⟨middle, hMiddle, h⟩ := Option.bind_eq_some_iff.mp h
    obtain ⟨hLine, hLines⟩ := List.forall_mem_cons.mp hOther
    rw [← Draft.keys_of_add? hMiddle] at hLines
    rw [ih h hLines, Draft.lookup_of_add? hMiddle hLine]

end ConsoleHost.Toml
