import ConsoleHost.Proofs.Toml.Places
import ConsoleHost.Settings

/-!
What the settings take from a document. A section that is missing has no fields, and each setting is
its field, if there is one, or the standard. So every line about a setting is followed or makes the
document unusable, and lines about anything else change nothing.
-/

namespace ConsoleHost.Settings

open Toml (Item)

variable {read : Clsid.Reader} {t : Toml.Table} {s : Settings}

theorem fieldOr_eq_some_iff {α : Type} {default value : α} {read? : Item → Option α}
    {found : Option Item} : fieldOr default read? found = some value ↔
      (found = none ∧ default = value) ∨ ∃ item, found = some item ∧ read? item = some value := by
  cases found <;> simp [fieldOr]

theorem read_of_fieldOr {α : Type} {default value : α} {read? : Item → Option α} {found : Option Item}
    {item : Item} (h : fieldOr default read? found = some value) (hFound : found = some item) :
    read? item = some value := by
  rwa [hFound] at h

def fields? (found : Option Item) : Option Toml.Section := fieldOr (fun _ _ => none) Item.section? found

/-- Each of these settings is what the document says about it, if it says anything, or the standard. -/
structure Takes (read : Clsid.Reader) (t : Toml.Table) (handoff session : Toml.Section) (s : Settings) :
    Prop where
  logLevel : fieldOr standard.logLevel Item.text? (t.lookup "log_level") = some s.logLevel
  target : fieldOr none (fun item => (item.clsid? read).map some) (handoff 0 "target") = some s.target
  historyBuffers : fieldOr standard.historyBuffers (Item.natBelow? bufferBound)
    (session 0 "history_buffers") = some s.historyBuffers
  bufferWidth : fieldOr standard.session.bufferSize.width Item.cells? (session 1 "screen_width") =
    some s.session.bufferSize.width
  bufferHeight : fieldOr standard.session.bufferSize.height Item.cells? (session 2 "screen_height") =
    some s.session.bufferSize.height
  windowWidth : fieldOr standard.session.windowSize.width Item.cells? (session 3 "window_width") =
    some s.session.windowSize.width
  windowHeight : fieldOr standard.session.windowSize.height Item.cells? (session 4 "window_height") =
    some s.session.windowSize.height
  title : fieldOr standard.session.title Item.text? (session 5 "default_title") = some s.session.title

/-- A section that is missing is read as one without fields. -/
theorem fieldOr_section {α : Type} {default value : α} {found : Option Item}
    (take? : Toml.Section → Option α) (hNone : take? (fun _ _ => none) = some default) :
    fieldOr default (fun item => item.section? >>= take?) found = some value ↔
      ∃ fields, fields? found = some fields ∧ take? fields = some value := by
  cases found with
  | none => simp [fieldOr, fields?, hNone]
  | some item => exact Option.bind_eq_some_iff

theorem withSession?_none (s : Settings) : s.withSession? (fun _ _ => none) = some s := rfl

/-- A document is usable if each of its sections and each field in them is, and then the settings are
what it says. -/
theorem ofTable?_eq_some_iff : ofTable? read t = some s ↔
    ∃ handoff session, fields? (t.lookup "handoff") = some handoff ∧
      fields? (t.lookup "session") = some session ∧ Takes read t handoff session s := by
  constructor
  · intro h
    obtain ⟨logLevel, hLogLevel, h⟩ := Option.bind_eq_some_iff.mp h
    obtain ⟨target, hTarget, h⟩ := Option.bind_eq_some_iff.mp h
    obtain ⟨handoff, hHandoff, hTarget⟩ := (fieldOr_section (targetIn? read) rfl).mp hTarget
    obtain ⟨session, hSession, h⟩ := (fieldOr_section _ (withSession?_none
      ⟨logLevel, target, standard.historyBuffers, standard.session⟩)).mp h
    obtain ⟨buffers, hBuffers, h⟩ := Option.bind_eq_some_iff.mp h
    obtain ⟨bufferWidth, hBufferWidth, h⟩ := Option.bind_eq_some_iff.mp h
    obtain ⟨bufferHeight, hBufferHeight, h⟩ := Option.bind_eq_some_iff.mp h
    obtain ⟨windowWidth, hWindowWidth, h⟩ := Option.bind_eq_some_iff.mp h
    obtain ⟨windowHeight, hWindowHeight, h⟩ := Option.bind_eq_some_iff.mp h
    obtain ⟨title, hTitle, h⟩ := Option.bind_eq_some_iff.mp h
    cases h
    exact ⟨handoff, session, hHandoff, hSession, hLogLevel, hTarget, hBuffers, hBufferWidth,
      hBufferHeight, hWindowWidth, hWindowHeight, hTitle⟩
  · rintro ⟨handoff, session, hHandoff, hSession, takes⟩
    have hTarget := (fieldOr_section (targetIn? read) rfl).mpr ⟨handoff, hHandoff, takes.target⟩
    refine Option.bind_eq_some_iff.mpr ⟨_, takes.logLevel, Option.bind_eq_some_iff.mpr ⟨_, hTarget, ?_⟩⟩
    refine (fieldOr_section _ (withSession?_none
      ⟨s.logLevel, s.target, standard.historyBuffers, standard.session⟩)).mpr ⟨session, hSession, ?_⟩
    simp [withSession?, takes.historyBuffers, takes.bufferWidth, takes.bufferHeight,
      takes.windowWidth, takes.windowHeight, takes.title]

/-! ### Lines about settings -/

section

variable {bound : Nat} {cs : List Char} {lines : List Toml.Statement}
  (hLines : Toml.statements? bound cs = some lines) (hTable : Toml.Table.ofStatements? lines = some t)
include hLines hTable

/-- In a section that is usable, the field that a line assigns has the value it assigns, wherever the
field is looked for. Under a repeated header the first field would be a table. -/
theorem field_of_assigned {key name first : String} {item : Item} {fields : Toml.Section}
    (hAssigned : ([key, name], item) ∈ Toml.assigned [] lines)
    (hFields : fields? (t.lookup key) = some fields)
    (hFirst : ∀ entries, fields 0 first ≠ some (.table .header entries)) (position : Nat) :
    fields position name = some item := by
  obtain ⟨hItem, path, hNames, hAt⟩ := Toml.at?_of_assigned hLines hTable hAssigned
  rcases Toml.lookup_lookup_of_at? hItem hNames hAt with ⟨origin, entries, hFound, hEntry⟩ | ⟨one, rest, hFound⟩
  · rw [hFound] at hFields
    cases hFields
    exact hEntry
  · rw [hFound] at hFields
    cases hFields
    exact absurd rfl (hFirst one)

/-- Settings that follow every line about them. -/
structure Follows (read : Clsid.Reader) (lines : List Toml.Statement) (s : Settings) : Prop where
  logLevel : ∀ item, (["log_level"], item) ∈ Toml.assigned [] lines → item.text? = some s.logLevel
  target : ∀ item, (["handoff", "target"], item) ∈ Toml.assigned [] lines →
    ∃ clsid, item.clsid? read = some clsid ∧ s.target = some clsid
  historyBuffers : ∀ item, (["session", "history_buffers"], item) ∈ Toml.assigned [] lines →
    item.natBelow? bufferBound = some s.historyBuffers
  bufferWidth : ∀ item, (["session", "screen_width"], item) ∈ Toml.assigned [] lines →
    item.cells? = some s.session.bufferSize.width
  bufferHeight : ∀ item, (["session", "screen_height"], item) ∈ Toml.assigned [] lines →
    item.cells? = some s.session.bufferSize.height
  windowWidth : ∀ item, (["session", "window_width"], item) ∈ Toml.assigned [] lines →
    item.cells? = some s.session.windowSize.width
  windowHeight : ∀ item, (["session", "window_height"], item) ∈ Toml.assigned [] lines →
    item.cells? = some s.session.windowSize.height
  title : ∀ item, (["session", "default_title"], item) ∈ Toml.assigned [] lines →
    item.text? = some s.session.title

/-- The settings of a document follow its lines. So a line with a value of the wrong type or out of range
makes the document unusable. -/
theorem ofTable?_follows (h : ofTable? read t = some s) : Follows read lines s := by
  obtain ⟨handoff, session, hHandoff, hSession, takes⟩ := ofTable?_eq_some_iff.mp h
  have hFirstTarget : ∀ entries, handoff 0 "target" ≠ some (.table .header entries) := by
    intro entries hTable
    have hRead := read_of_fieldOr takes.target hTable
    cases hRead
  have hFirstBuffers : ∀ entries, session 0 "history_buffers" ≠ some (.table .header entries) := by
    intro entries hTable
    have hRead := read_of_fieldOr takes.historyBuffers hTable
    cases hRead
  have hField {name : String} {item : Item} (position : Nat)
      (hAssigned : (["session", name], item) ∈ Toml.assigned [] lines) :
      session position name = some item :=
    field_of_assigned hLines hTable hAssigned hSession hFirstBuffers position
  refine ⟨?_, ?_, ?_, ?_, ?_, ?_, ?_, ?_⟩
  · intro item hAssigned
    obtain ⟨hItem, path, hNames, hAt⟩ := Toml.at?_of_assigned hLines hTable hAssigned
    exact read_of_fieldOr takes.logLevel (Toml.lookup_of_at? hItem hNames hAt)
  · intro item hAssigned
    have hFound := field_of_assigned hLines hTable hAssigned hHandoff hFirstTarget 0
    have hRead := read_of_fieldOr takes.target hFound
    obtain ⟨clsid, hClsid, hSome⟩ := Option.map_eq_some_iff.mp hRead
    exact ⟨clsid, hClsid, hSome.symm⟩
  · exact fun item hAssigned => read_of_fieldOr takes.historyBuffers (hField 0 hAssigned)
  · exact fun item hAssigned => read_of_fieldOr takes.bufferWidth (hField 1 hAssigned)
  · exact fun item hAssigned => read_of_fieldOr takes.bufferHeight (hField 2 hAssigned)
  · exact fun item hAssigned => read_of_fieldOr takes.windowWidth (hField 3 hAssigned)
  · exact fun item hAssigned => read_of_fieldOr takes.windowHeight (hField 4 hAssigned)
  · exact fun item hAssigned => read_of_fieldOr takes.title (hField 5 hAssigned)

end

def knownKeys : List String := ["log_level", "handoff", "session"]

/-- Lines about anything else change nothing, wherever the document they are added to stands. -/
theorem ofTable?_of_foldlM_add? {lines : List Toml.Statement} {d d' : Toml.Draft}
    (h : lines.foldlM Toml.Draft.add? d = some d')
    (hOther : ∀ p ∈ Toml.named d.keys lines, ∀ key ∈ knownKeys, p.1.head? ≠ some key) :
    ofTable? read d'.root = ofTable? read d.root := by
  have hSame : ∀ key ∈ knownKeys, d'.root.lookup key = d.root.lookup key := fun key hKey =>
    Toml.Draft.lookup_of_foldlM_add? h fun p hp => hOther p hp key hKey
  unfold ofTable?
  rw [hSame "log_level" (by simp [knownKeys]), hSame "handoff" (by simp [knownKeys]),
    hSame "session" (by simp [knownKeys])]

/-- A document that mentions none of the settings gives the standard ones. -/
theorem ofTable?_eq_standard {lines : List Toml.Statement} (hTable : Toml.Table.ofStatements? lines = some t)
    (hOther : ∀ p ∈ Toml.named [] lines, ∀ key ∈ knownKeys, p.1.head? ≠ some key) :
    ofTable? read t = some standard := by
  obtain ⟨d, hRun, rfl⟩ := Option.map_eq_some_iff.mp hTable
  exact ofTable?_of_foldlM_add? hRun hOther

theorem parse?_of_blank {text : String}
    (hBlank : ∀ c ∈ text.toList, Toml.isBlank c = true ∨ c = '\n') :
    parse? read text = some standard := by
  rw [parse?, Toml.parse?_of_blank hBlank]
  rfl

/-! ### Files -/

/-- There are never so many history buffers that their number does not fit. -/
theorem historyBuffers_lt_of_ofTable? (h : ofTable? read t = some s) : s.historyBuffers < bufferBound := by
  obtain ⟨handoff, session, -, -, takes⟩ := ofTable?_eq_some_iff.mp h
  rcases fieldOr_eq_some_iff.mp takes.historyBuffers with ⟨-, hStandard⟩ | ⟨item, -, hRead⟩
  · rw [← hStandard]
    decide
  · cases item with
    | integer n =>
      obtain ⟨hRange, hBuffers⟩ := Option.ite_none_right_eq_some.mp hRead
      have hValue : n.toNat = s.historyBuffers := Option.some.inj hBuffers
      omega
    | _ => cases hRead

/-- Whatever a file holds, the settings in force are the standard ones or those of a document that is
usable. -/
theorem ofFound_eq (read : Clsid.Reader) (name : String) (found : Found) :
    ofFound read name found = standard ∨
      ∃ text t, Toml.parse? text = some t ∧ ofTable? read t = some (ofFound read name found) := by
  cases hLoad : load read name found with
  | error e => exact .inl (by simp [ofFound, hLoad])
  | ok s =>
    have hSettings : ofFound read name found = s := by simp [ofFound, hLoad]
    rw [hSettings]
    cases found with
    | nothing => cases hLoad
    | directory => cases hLoad
    | bytes content =>
      simp only [load] at hLoad
      split at hLoad
      · cases hLoad
      · next text hText =>
        split at hLoad
        · cases hLoad
        · next parsed hParsed =>
          cases hLoad
          obtain ⟨t, hTable, hTaken⟩ := Option.bind_eq_some_iff.mp hParsed
          exact .inr ⟨text, t, hTable, hTaken⟩

theorem ofFound_historyBuffers_lt (read : Clsid.Reader) (name : String) (found : Found) :
    (ofFound read name found).historyBuffers < bufferBound := by
  rcases ofFound_eq read name found with hStandard | ⟨text, t, -, hTaken⟩
  · rw [hStandard]
    decide
  · exact historyBuffers_lt_of_ofTable? hTaken

/-- A file that cannot be used is named in the message about it. -/
theorem name_in_message_of_load {name : String} {found : Found} {e : LoadError}
    (h : load read name found = .error e) : ∃ before behind, e.message = before ++ name ++ behind := by
  have hName : (∃ reason, e = .unreadable name reason) ∨ e = .malformed name := by
    cases found with
    | nothing => exact .inl ⟨_, (Except.error.inj h).symm⟩
    | directory => exact .inl ⟨_, (Except.error.inj h).symm⟩
    | bytes content =>
      simp only [load] at h
      split at h
      · exact .inl ⟨_, (Except.error.inj h).symm⟩
      · split at h
        · exact .inr (Except.error.inj h).symm
        · cases h
  rcases hName with ⟨reason, rfl⟩ | rfl
  · exact ⟨"Failed to read ", ": " ++ reason, String.append_assoc⟩
  · exact ⟨"Failed to parse ", "", String.append_empty.symm⟩

end ConsoleHost.Settings
