import ConsoleHost.Proofs.Toml.Reading

/-!
Paths into a document. A path leads from the document to a value in it, and a route changes what lies
behind one path and nothing else. So an assignment adds one value, a header adds none, and neither
touches a value that is settled.
-/

namespace ConsoleHost.Toml

/-- One step into a value. -/
inductive Step where
  | entry (key : String)
  /-- To one of the tables under a repeated header. -/
  | element (index : Nat)
  deriving DecidableEq

def Step.key? : Step → Option String
  | entry key => some key
  | element _ => none

/-- The keys on a path, which are the parts of the full name of what it leads to. -/
def names (path : List Step) : List String := path.filterMap Step.key?

@[simp] theorem names_nil : names [] = [] := rfl

@[simp] theorem names_entry {key : String} {path : List Step} :
    names (.entry key :: path) = key :: names path := rfl

@[simp] theorem names_element {index : Nat} {path : List Step} :
    names (.element index :: path) = names path := rfl

@[simp] theorem names_append {front path : List Step} : names (front ++ path) = names front ++ names path :=
  List.filterMap_append

namespace Item

def child? : Item → Step → Option Item
  | table _ entries, .entry key => entries.lookup key
  | tables elements, .element index => elements[index]?.map (table .header)
  | _, _ => none

def at? (item : Item) (path : List Step) : Option Item := path.foldlM child? item

variable {item : Item} {step : Step} {path rest : List Step}

@[simp] theorem at?_nil : item.at? [] = some item := rfl

theorem at?_cons : item.at? (step :: path) = (item.child? step).bind fun inner => inner.at? path :=
  List.foldlM_cons

/-- How a table came to be does not matter for what it holds. -/
theorem at?_table {origin origin' : Origin} {t : Table} :
    (table origin t).at? (step :: path) = (table origin' t).at? (step :: path) := by
  cases step <;> rfl

/-- An empty table holds nothing. -/
theorem at?_table_nil {origin : Origin} : (table origin []).at? (step :: path) = none := by
  cases step <;> rfl

end Item

/-- Two values that differ only in the tables at the end of a path. -/
structure Acts (x x' : Item) (path : List Step) (inner inner' : Table) : Prop where
  before : ∀ step rest, x.at? (path ++ step :: rest) = (Item.table .header inner).at? (step :: rest)
  after : ∀ step rest, x'.at? (path ++ step :: rest) = (Item.table .header inner').at? (step :: rest)
  elsewhere : ∀ q item, item.isSettled = true → (∀ step rest, q ≠ path ++ step :: rest) →
    (x'.at? q = some item ↔ x.at? q = some item)

namespace Acts

variable {x x' y y' item : Item} {path : List Step} {inner inner' : Table}

/-- The change itself, at the end of its path. -/
theorem here {origin origin' : Origin} (hOpen : origin ≠ .braces) (hOpen' : origin' ≠ .braces) :
    Acts (.table origin inner) (.table origin' inner') [] inner inner' where
  before _ _ := Item.at?_table
  after _ _ := Item.at?_table
  elsewhere q item hItem hElse := by
    cases q with
    | cons step rest => exact absurd rfl (hElse step rest)
    | nil =>
      have hNot : ∀ at_ t, at_ ≠ .braces → some (Item.table at_ t) ≠ some item := by
        rintro at_ t hAt ⟨⟩
        simp [Item.isSettled, hAt] at hItem
      simp [hNot origin inner hOpen, hNot origin' inner' hOpen']

/-- A change inside one child is a change inside the whole. A child that was missing counts as an empty
table. -/
theorem under {step : Step} (acts : Acts y y' path inner inner')
    (hChild : ∀ s rest, x.at? (step :: s :: rest) = y.at? (s :: rest))
    (hChild' : x'.child? step = some y')
    (hOthers : ∀ other, other ≠ step → x'.child? other = x.child? other)
    (hOpen : x.isSettled = false) (hOpen' : x'.isSettled = false)
    (hInner : ∀ item, x.child? step = some item → item.isSettled = false)
    (hInner' : y'.isSettled = false) : Acts x x' (step :: path) inner inner' where
  before s rest := by
    rw [← acts.before]
    cases path <;> exact hChild _ _
  after s rest := by
    rw [← acts.after, List.cons_append, Item.at?_cons, hChild', Option.bind_some]
  elsewhere q item hItem hElse := by
    rcases q with - | ⟨other, q⟩
    · have hNot : ∀ z : Item, z.isSettled = false → some z ≠ some item := by
        rintro z hz ⟨⟩
        simp [hItem] at hz
      simp [hNot x hOpen, hNot x' hOpen']
    · by_cases hStep : other = step
      · subst hStep
        rcases q with - | ⟨s, q⟩
        · simp only [Item.at?_cons, hChild', Item.at?_nil, Option.bind_fun_some]
          refine ⟨?_, fun hOld => ?_⟩
          · rintro ⟨⟩
            simp [hItem] at hInner'
          · simp [hInner item hOld] at hItem
        · rw [hChild, Item.at?_cons, hChild', Option.bind_some]
          exact acts.elsewhere _ _ hItem fun s' rest hPath => hElse s' rest (by simp [hPath])
      · rw [Item.at?_cons, Item.at?_cons, hOthers other hStep]

section

variable {origin : Origin} {t t' : Table} {key : String} (hOpen : origin ≠ .braces)
include hOpen

/-- A change inside the value of one key, while every other key keeps its own. A key that was free counts
as one whose value holds nothing. -/
theorem underKey (acts : Acts y y' path inner inner')
    (hBefore : t.lookup key = some y ∧ y.isSettled = false ∨
      t.lookup key = none ∧ ∀ s rest, y.at? (s :: rest) = none)
    (hAfter : t'.lookup key = some y') (hOthers : ∀ other, other ≠ key → t'.lookup other = t.lookup other)
    (hInner' : y'.isSettled = false) :
    Acts (.table origin t) (.table origin t') (.entry key :: path) inner inner' := by
  refine acts.under ?_ hAfter ?_ (by simp [Item.isSettled, hOpen]) (by simp [Item.isSettled, hOpen]) ?_
    hInner'
  · intro s rest
    rw [Item.at?_cons]
    rcases hBefore with ⟨hUsed, -⟩ | ⟨hFree, hEmpty⟩
    · simp [Item.child?, hUsed]
    · simp [Item.child?, hFree, hEmpty]
  · rintro (other | index) hOther
    · exact hOthers other fun hSame => hOther (by rw [hSame])
    · rfl
  · rcases hBefore with ⟨hUsed, hInner⟩ | ⟨hFree, -⟩
    · simp [Item.child?, hUsed, hInner]
    · simp [Item.child?, hFree]

theorem underEntry (acts : Acts y y' path inner inner') (hUsed : t.lookup key = some y)
    (hInner : y.isSettled = false) (hInner' : y'.isSettled = false) :
    Acts (.table origin t) (.table origin (t.replace key y')) (.entry key :: path) inner inner' :=
  acts.underKey hOpen (.inl ⟨hUsed, hInner⟩) (by simp [Table.lookup_replace, hUsed])
    (fun other hOther => by simp [Table.lookup_replace, hOther]) hInner'

theorem underNewEntry (acts : Acts y y' path inner inner') (hFree : t.lookup key = none)
    (hEmpty : ∀ s rest, y.at? (s :: rest) = none) (hInner' : y'.isSettled = false) :
    Acts (.table origin t) (.table origin (t ++ [(key, y')])) (.entry key :: path) inner inner' :=
  acts.underKey hOpen (.inr ⟨hFree, hEmpty⟩) (by simp [Table.lookup_append_entry hFree])
    (fun other hOther => by simp [Table.lookup_append_entry hFree, hOther]) hInner'

end

/-- A change inside the last of the tables under a repeated header, or inside one that is added to
them. -/
theorem underElement {front front' : List Table} {last last' : Table}
    (acts : Acts (.table .header last) (.table .header last') path inner inner')
    (hLast : front' = front ++ [last] ∨ front' = front ∧ last = []) :
    Acts (.tables front') (.tables (front ++ [last'])) (.element front.length :: path) inner inner' := by
  have hFound : front'[front.length]? = none ∧ last = [] ∨ front'[front.length]? = some last := by
    rcases hLast with rfl | ⟨rfl, hEmpty⟩
    · simp
    · simp [hEmpty]
  refine acts.under ?_ (by simp [Item.child?]) ?_ rfl rfl ?_ (by simp [Item.isSettled])
  · intro s rest
    rw [Item.at?_cons]
    rcases hFound with ⟨hNone, rfl⟩ | hSome
    · simp [Item.child?, hNone, Item.at?_table_nil]
    · simp [Item.child?, hSome]
  · rintro (other | index) hOther
    · rfl
    · have hIndex : index ≠ front.length := fun hSame => hOther (by rw [hSame])
      have hSame : front'[index]? = (front ++ [last'])[index]? := by
        rcases hLast with rfl | ⟨rfl, -⟩ <;> grind
      simp [Item.child?, hSame]
  · rcases hFound with ⟨hNone, -⟩ | hSome
    · simp [Item.child?, hNone]
    · simp [Item.child?, hSome, Item.isSettled]

end Acts

namespace Table

variable {t t' : Table} {route : Route} {change : Origin → Table → Option Table}

theorem ne_braces_of_enters {origin : Origin} (h : route.enters origin = true) : origin ≠ .braces := by
  cases route <;> cases origin <;> simp_all [Route.enters]

theorem origin_ne_braces : route.origin ≠ .braces := by
  cases route <;> simp [Route.origin]

/-- A route acts at the end of one path, whose keys are those of the route. -/
theorem changeAt?_acts {keys : List String} {origin : Origin} (hOpen : origin ≠ .braces)
    (h : changeAt? route change keys origin t = some t') :
    ∃ path at_ inner inner', names path = keys ∧ change at_ inner = some inner' ∧
      Acts (.table origin t) (.table origin t') path inner inner' := by
  induction keys generalizing origin t t' with
  | nil => exact ⟨[], origin, t, t', rfl, h, .here hOpen hOpen⟩
  | cons key keys ih =>
    rcases changeAt?_cons h with ⟨made, hFree, hMade, rfl⟩ |
      ⟨old, entered, entered', hUsed, hEnters, hEntered, rfl⟩ | ⟨front, last, last', hUsed, hLast, rfl⟩
    · obtain ⟨path, at_, inner, inner', hNames, hChange, acts⟩ := ih origin_ne_braces hMade
      exact ⟨.entry key :: path, at_, inner, inner', by simp [hNames], hChange,
        acts.underNewEntry hOpen hFree (fun _ _ => Item.at?_table_nil)
          (by simp [Item.isSettled, origin_ne_braces])⟩
    · have hOld := ne_braces_of_enters hEnters
      obtain ⟨path, at_, inner, inner', hNames, hChange, acts⟩ := ih hOld hEntered
      exact ⟨.entry key :: path, at_, inner, inner', by simp [hNames], hChange,
        acts.underEntry hOpen hUsed (by simp [Item.isSettled, hOld]) (by simp [Item.isSettled, hOld])⟩
    · obtain ⟨path, at_, inner, inner', hNames, hChange, acts⟩ := ih (by simp) hLast
      exact ⟨.entry key :: .element front.length :: path, at_, inner, inner', by simp [hNames], hChange,
        (acts.underElement (.inl rfl)).underEntry hOpen hUsed rfl rfl⟩

end Table

/-- The second value holds one settled value more than the first, at the end of a path that led nowhere
before, and whatever lies in that. -/
structure Gains (x x' : Item) (path : List Step) (item : Item) : Prop where
  free : x.at? path = none
  holds_iff : ∀ q other, other.isSettled = true →
    (x'.at? q = some other ↔ x.at? q = some other ∨ ∃ rest, q = path ++ rest ∧ item.at? rest = some other)

/-- Both hold the same settled values, in the same places. -/
def Keeps (x x' : Item) : Prop :=
  ∀ q other, other.isSettled = true → (x'.at? q = some other ↔ x.at? q = some other)

theorem Keeps.refl {x : Item} : Keeps x x := fun _ _ _ => Iff.rfl

namespace Acts

variable {x x' item : Item} {path : List Step} {inner inner' : Table}

/-- Where the tables at the end of the path hold the same, so does the whole. -/
theorem keeps (acts : Acts x x' path inner inner')
    (hInner : Keeps (.table .header inner) (.table .header inner')) : Keeps x x' := by
  intro q other hOther
  by_cases hPath : ∃ step rest, q = path ++ step :: rest
  · obtain ⟨step, rest, rfl⟩ := hPath
    rw [acts.after, acts.before]
    exact hInner _ _ hOther
  · exact acts.elsewhere _ _ hOther fun step rest hq => hPath ⟨step, rest, hq⟩

/-- Where they differ by one value, so does the whole, with that value behind the path. -/
theorem gains {step : Step} {rest : List Step} (acts : Acts x x' path inner inner')
    (hInner : Gains (.table .header inner) (.table .header inner') (step :: rest) item) :
    Gains x x' (path ++ step :: rest) item where
  free := by rw [acts.before, hInner.free]
  holds_iff q other hOther := by
    by_cases hPath : ∃ s r, q = path ++ s :: r
    · obtain ⟨s, r, rfl⟩ := hPath
      rw [acts.after, acts.before, hInner.holds_iff _ _ hOther]
      simp [List.append_assoc]
    · rw [acts.elsewhere _ _ hOther fun s r hq => hPath ⟨s, r, hq⟩]
      refine ⟨.inl, fun h => h.resolve_right ?_⟩
      rintro ⟨behind, hq, -⟩
      exact hPath ⟨step, rest ++ behind, by simp [hq]⟩

end Acts

namespace Table

variable {t t' : Table} {item : Item}

/-- A free key gains its value, and every other place keeps what it held. -/
theorem add?_gains {key : String} (h : t.add? key item = some t') :
    Gains (.table .header t) (.table .header t') [.entry key] item := by
  rw [add?] at h
  obtain ⟨hUsed, h⟩ := Option.ite_none_left_eq_some.mp h
  cases h
  have hFree : t.lookup key = none := Option.not_isSome_iff_eq_none.mp hUsed
  refine ⟨by simp [Item.at?_cons, Item.child?, hFree], ?_⟩
  rintro (- | ⟨other | index, q⟩) held hHeld
  · have hNot : ∀ t, Item.table .header t ≠ held := by
      rintro t rfl
      simp [Item.isSettled] at hHeld
    simp [hNot]
  · by_cases hKey : other = key
    · simp [Item.at?_cons, Item.child?, lookup_append_entry hFree, hKey, hFree]
    · simp [Item.at?_cons, Item.child?, lookup_append_entry hFree, hKey]
  · simp [Item.at?_cons, Item.child?]

/-- An assignment puts its value behind its key. -/
theorem assign?_gains {key : DottedKey} (h : t.assign? key item = some t') :
    ∃ step rest, names (step :: rest) = key.front ++ [key.last] ∧
      Gains (.table .header t) (.table .header t') (step :: rest) item := by
  obtain ⟨path, at_, inner, inner', hNames, hAdd, acts⟩ := changeAt?_acts (by simp) h
  split at hAdd
  · have gains := acts.gains (add?_gains hAdd)
    cases path with
    | nil => exact ⟨_, _, by simp [← hNames], gains⟩
    | cons step rest =>
      refine ⟨step, rest ++ [Step.entry key.last], ?_, gains⟩
      rw [← List.cons_append, names_append, hNames, names_entry, names_nil]
  · cases hAdd

/-- A header only makes room. -/
theorem openTable?_keeps {key : DottedKey} (h : t.openTable? key = some t') :
    Keeps (.table .header t) (.table .header t') := by
  obtain ⟨path, at_, parent, parent', -, hOpen, acts⟩ := changeAt?_acts (by simp) h
  refine acts.keeps ?_
  have hHere (at_ : Origin) (hAt : at_ ≠ .braces) (inner : Table) :
      Acts (.table at_ inner) (.table .header inner) [] inner inner := .here hAt (by simp)
  split at hOpen
  · next hFree =>
    cases hOpen
    exact ((hHere .header (by simp) []).underNewEntry (by simp) hFree
      (fun _ _ => Item.at?_table_nil) rfl).keeps .refl
  · next inner hUsed =>
    cases hOpen
    exact ((hHere .headerPath (by simp) inner).underEntry (by simp) hUsed rfl rfl).keeps .refl
  · cases hOpen

/-- So does a repeated header. -/
theorem openElement?_keeps {key : DottedKey} (h : t.openElement? key = some t') :
    Keeps (.table .header t) (.table .header t') := by
  obtain ⟨path, at_, parent, parent', -, hOpen, acts⟩ := changeAt?_acts (by simp) h
  refine acts.keeps ?_
  have hAdded (front : List Table) : Acts (.tables front) (.tables (front ++ [[]]))
      [.element front.length] [] [] :=
    (Acts.here (by simp) (by simp)).underElement (.inr ⟨rfl, rfl⟩)
  split at hOpen
  · next hFree =>
    cases hOpen
    refine ((hAdded []).underNewEntry (by simp) hFree ?_ rfl).keeps .refl
    rintro (other | index) rest <;> rfl
  · next elements hUsed =>
    cases hOpen
    exact ((hAdded elements).underEntry (by simp) hUsed rfl rfl).keeps .refl
  · cases hOpen

end Table

end ConsoleHost.Toml
