import ConsoleHost.Proofs.Toml.Proper
import ConsoleHost.Toml.Document

/-!
What is read from a text. Values come out proper and settled, at every depth, and so the document that
is put together from its lines is proper.
-/

namespace ConsoleHost.Toml

/-- No line of the document may add to this value. Lines add to tables that were not written in braces
and to the tables under a repeated header. -/
def Item.isSettled : Item → Bool
  | table origin _ => origin = .braces
  | tables _ => false
  | _ => true

/-- A value that stands in a document as it was read. -/
structure Item.Readable (item : Item) : Prop where
  proper : item.Proper
  settled : item.isSettled = true

/-- A reader reads only such values. -/
def Reader.Sound (read : Reader) : Prop :=
  ∀ {cs rest : List Char} {item : Item}, read cs = some (item, rest) → item.Readable

theorem basedInteger?_sound {base : Nat} : Reader.Sound (basedInteger? base) := by
  intro cs rest item h
  obtain ⟨⟨digits, after⟩, -, h⟩ := Option.bind_eq_some_iff.mp h
  obtain ⟨hRange, h⟩ := Option.ite_none_right_eq_some.mp h
  simp only [Option.some.injEq, Prod.mk.injEq] at h
  exact h.1 ▸ ⟨.integer hRange, rfl⟩

/-- Integers out of range are not read. -/
theorem integer?_sound : Reader.Sound integer? := by
  intro cs rest item h
  unfold integer? at h
  split at h
  · exact basedInteger?_sound h
  · exact basedInteger?_sound h
  · exact basedInteger?_sound h
  · obtain ⟨⟨⟨negative, digits⟩, after⟩, -, h⟩ := Option.bind_eq_some_iff.mp h
    obtain ⟨hRange, h⟩ := Option.ite_none_right_eq_some.mp h
    simp only [Option.some.injEq, Prod.mk.injEq] at h
    exact h.1 ▸ ⟨.integer hRange, rfl⟩

theorem eq_float_of_fractional? {cs rest : List Char} {item : Item}
    (h : fractional? cs = some (item, rest)) : item = .float := by
  obtain ⟨⟨⟨negative, units⟩, afterWhole⟩, -, h⟩ := Option.bind_eq_some_iff.mp h
  obtain ⟨-, h⟩ := Option.ite_none_right_eq_some.mp h
  obtain ⟨⟨fraction, afterFraction⟩, -, h⟩ := Option.bind_eq_some_iff.mp h
  obtain ⟨⟨exponent, afterExponent⟩, -, h⟩ := Option.bind_eq_some_iff.mp h
  obtain ⟨-, h⟩ := Option.ite_none_left_eq_some.mp h
  simp only [Option.some.injEq, Prod.mk.injEq] at h
  exact h.1.symm

theorem eq_float_of_notFinite? {cs rest : List Char} {item : Item}
    (h : notFinite? cs = some (item, rest)) : item = .float := by
  unfold notFinite? at h
  split at h <;> simp_all

/-- Of numbers that are no integers only the kind is kept. -/
theorem number?_sound : Reader.Sound number? := by
  intro cs rest item h
  rcases Option.or_eq_some_iff.mp h with hFraction | ⟨-, h⟩
  · exact eq_float_of_fractional? hFraction ▸ ⟨.float, rfl⟩
  · rcases Option.or_eq_some_iff.mp h with hInfinite | ⟨-, hInteger⟩
    · exact eq_float_of_notFinite? hInfinite ▸ ⟨.float, rfl⟩
    · exact integer?_sound hInteger

theorem word?_sound {word : String} {item : Item} (hItem : item.Readable) :
    Reader.Sound (word? word item) := by
  intro cs rest read h
  obtain ⟨-, h⟩ := Option.ite_none_right_eq_some.mp h
  simp only [Option.some.injEq, Prod.mk.injEq] at h
  exact h.1 ▸ hItem

/-- A value that holds no others is read soundly. -/
theorem scalar?_sound : Reader.Sound scalar? := by
  intro cs rest item h
  unfold scalar? at h
  split at h
  · obtain ⟨⟨text, after⟩, -, hRead⟩ := Option.map_eq_some_iff.mp h
    cases hRead
    exact ⟨.string _, rfl⟩
  · obtain ⟨⟨text, after⟩, -, hRead⟩ := Option.map_eq_some_iff.mp h
    cases hRead
    exact ⟨.string _, rfl⟩
  · exact word?_sound ⟨.boolean true, rfl⟩ h
  · exact word?_sound ⟨.boolean false, rfl⟩ h
  · split at h
    · cases h
      exact ⟨.dateTime, rfl⟩
    · exact number?_sound h

section

variable {read : Reader} (sound : read.Sound)
include sound

/-- The elements of an array are read soundly, by induction on how many there may be. -/
theorem elements?_sound {bound : Nat} {cs rest : List Char} {items : List Item}
    (h : elements? read bound cs = some (items, rest)) : ∀ item ∈ items, item.Readable := by
  induction bound generalizing cs rest items with
  | zero => cases h
  | succ bound ih =>
    rw [elements?] at h
    split at h
    · cases h
      simp
    · obtain ⟨⟨first, afterFirst⟩, hFirst, h⟩ := Option.bind_eq_some_iff.mp h
      dsimp only at h
      split at h
      · cases h
        simpa using sound hFirst
      · obtain ⟨⟨others, afterOthers⟩, hOthers, h⟩ := Option.bind_eq_some_iff.mp h
        cases h
        exact List.forall_mem_cons.mpr ⟨sound hFirst, ih hOthers⟩
      · cases h

theorem assignment?_sound {cs rest : List Char} {entry : DottedKey × Item}
    (h : assignment? read cs = some (entry, rest)) : entry.2.Readable := by
  obtain ⟨⟨key, afterKey⟩, -, h⟩ := Option.bind_eq_some_iff.mp h
  dsimp only at h
  split at h
  · obtain ⟨⟨item, afterItem⟩, hItem, h⟩ := Option.bind_eq_some_iff.mp h
    cases h
    exact sound hItem
  · cases h

/-- So are the values of a table in braces. -/
theorem assignments?_sound {bound : Nat} {cs rest : List Char} {entries : List (DottedKey × Item)}
    (h : assignments? read bound cs = some (entries, rest)) : ∀ entry ∈ entries, entry.2.Readable := by
  induction bound generalizing cs rest entries with
  | zero => cases h
  | succ bound ih =>
    rw [assignments?] at h
    obtain ⟨⟨first, afterFirst⟩, hFirst, h⟩ := Option.bind_eq_some_iff.mp h
    dsimp only at h
    split at h
    · cases h
      simpa using assignment?_sound sound hFirst
    · obtain ⟨⟨others, afterOthers⟩, hOthers, h⟩ := Option.bind_eq_some_iff.mp h
      cases h
      exact List.forall_mem_cons.mpr ⟨assignment?_sound sound hFirst, ih hOthers⟩
    · cases h

theorem braced?_sound : Reader.Sound (braced? read) := by
  intro cs rest item h
  unfold braced? at h
  split at h
  · cases h
    exact ⟨Table.Proper.nil.toItem _, rfl⟩
  · obtain ⟨⟨entries, afterEntries⟩, hEntries, h⟩ := Option.bind_eq_some_iff.mp h
    obtain ⟨table, hTable, h⟩ := Option.bind_eq_some_iff.mp h
    cases h
    have hItems := assignments?_sound sound hEntries
    exact ⟨(Table.Proper.nil.foldlM_assign (fun a ha => (hItems a ha).proper) hTable).toItem _, rfl⟩

end

/-- Values are read soundly at every depth, by induction on the depth that is left. -/
theorem value?_sound {depth : Nat} : (value? depth).Sound := by
  induction depth with
  | zero => exact scalar?_sound
  | succ depth ih =>
    intro cs rest item h
    simp only [value?] at h
    split at h
    · obtain ⟨⟨items, after⟩, hItems, hRead⟩ := Option.map_eq_some_iff.mp h
      cases hRead
      exact ⟨.array fun item hItem => (elements?_sound ih hItems item hItem).proper, rfl⟩
    · exact braced?_sound ih h
    · exact scalar?_sound h

/-! ### Documents -/

def Statement.item? : Statement → Option Item
  | assignment _ item => some item
  | header _ | repeatedHeader _ => none

def Statement.Sound (line : Statement) : Prop := ∀ item, line.item? = some item → item.Readable

theorem statement?_sound {cs rest : List Char} {line : Statement}
    (h : statement? cs = some (line, rest)) : line.Sound := by
  unfold statement? at h
  split at h
  · obtain ⟨⟨key, afterKey⟩, -, h⟩ := Option.bind_eq_some_iff.mp h
    dsimp only at h
    split at h <;> cases h
    rintro item ⟨⟩
  · obtain ⟨⟨key, afterKey⟩, -, h⟩ := Option.bind_eq_some_iff.mp h
    dsimp only at h
    split at h <;> cases h
    rintro item ⟨⟩
  · obtain ⟨⟨⟨key, item⟩, after⟩, hEntry, h⟩ := Option.bind_eq_some_iff.mp h
    cases h
    rintro item ⟨⟩
    exact assignment?_sound value?_sound hEntry

/-- Every line of a text is read soundly. -/
theorem statements?_sound {bound : Nat} {cs : List Char} {lines : List Statement}
    (h : statements? bound cs = some lines) : ∀ line ∈ lines, line.Sound := by
  induction bound generalizing cs lines with
  | zero => cases h
  | succ bound ih =>
    rw [statements?] at h
    split at h
    · cases h
      simp
    · obtain ⟨rest, -, h⟩ := Option.bind_eq_some_iff.mp h
      exact ih h
    · obtain ⟨rest, -, h⟩ := Option.bind_eq_some_iff.mp h
      exact ih h
    · obtain ⟨rest, -, h⟩ := Option.bind_eq_some_iff.mp h
      exact ih h
    · obtain ⟨⟨line, afterLine⟩, hLine, h⟩ := Option.bind_eq_some_iff.mp h
      obtain ⟨rest, -, h⟩ := Option.bind_eq_some_iff.mp h
      obtain ⟨others, hOthers, h⟩ := Option.bind_eq_some_iff.mp h
      cases h
      exact List.forall_mem_cons.mpr ⟨statement?_sound hLine, ih hOthers⟩

/-- A line that is accepted keeps the document proper. -/
theorem Draft.add?_proper {d d' : Draft} {line : Statement} (proper : d.root.Proper)
    (hLine : line.Sound) (h : d.add? line = some d') : d'.root.Proper := by
  cases line with
  | assignment key item =>
    obtain ⟨root, hRoot, rfl⟩ := Option.map_eq_some_iff.mp h
    exact proper.changeAt (fun _ _ _ hInner hAssign => hInner.assign (hLine item rfl).proper hAssign) hRoot
  | header key =>
    obtain ⟨root, hRoot, rfl⟩ := Option.map_eq_some_iff.mp h
    exact proper.openTable hRoot
  | repeatedHeader key =>
    obtain ⟨root, hRoot, rfl⟩ := Option.map_eq_some_iff.mp h
    exact proper.openElement hRoot

/-- A document stays proper over any lines. -/
theorem Draft.foldlM_add?_proper {lines : List Statement} {d d' : Draft} (proper : d.root.Proper)
    (hLines : ∀ line ∈ lines, line.Sound) (h : lines.foldlM Draft.add? d = some d') :
    d'.root.Proper := by
  induction lines generalizing d with
  | nil =>
    cases h
    exact proper
  | cons line lines ih =>
    rw [List.foldlM_cons] at h
    obtain ⟨middle, hMiddle, h⟩ := Option.bind_eq_some_iff.mp h
    obtain ⟨hLine, hLines⟩ := List.forall_mem_cons.mp hLines
    exact ih (Draft.add?_proper proper hLine hMiddle) hLines h

/-- No table of a document repeats a key, and the integers of a document are in range. -/
theorem parse?_proper {text : String} {t : Table} (h : parse? text = some t) : t.Proper := by
  obtain ⟨lines, hLines, h⟩ := Option.bind_eq_some_iff.mp h
  obtain ⟨d, hRun, rfl⟩ := Option.map_eq_some_iff.mp h
  exact Draft.foldlM_add?_proper .nil (statements?_sound hLines) hRun

/-! ### Texts without lines -/

/-- Blanks and line feeds hold no lines. -/
theorem statements?_of_blank {bound : Nat} {cs : List Char}
    (hBlank : ∀ c ∈ cs, isBlank c = true ∨ c = '\n') (hBound : cs.length < bound) :
    statements? bound cs = some [] := by
  induction bound generalizing cs with
  | zero => omega
  | succ bound ih =>
    have hSuffix : skipBlanks cs <:+ cs := List.dropWhile_suffix isBlank
    rw [statements?]
    cases hStart : skipBlanks cs with
    | nil => rfl
    | cons c rest =>
      rw [hStart] at hSuffix
      have hDropped : cs.dropWhile isBlank = c :: rest := hStart
      have hHead : isBlank c = false := by
        simpa [hDropped] using List.head?_dropWhile_not isBlank cs
      have hLine : c = '\n' := (hBlank c (hSuffix.mem (by simp))).resolve_left (by simp [hHead])
      subst hLine
      have hLength := hSuffix.length_le
      rw [List.length_cons] at hLength
      exact ih (fun c hc => hBlank c (hSuffix.mem (List.mem_cons_of_mem _ hc))) (by omega)

/-- A text of blanks and line feeds is a document without entries. -/
theorem parse?_of_blank {text : String} (hBlank : ∀ c ∈ text.toList, isBlank c = true ∨ c = '\n') :
    parse? text = some [] := by
  have hMark : ∀ rest, text.toList ≠ '\uFEFF' :: rest := by
    intro rest hText
    have hFirst := hBlank '\uFEFF' (by simp [hText])
    revert hFirst
    decide
  simp only [parse?]
  rw [statements?_of_blank hBlank (Nat.lt_succ_self _)]
  rfl

end ConsoleHost.Toml
