import ConsoleHost.Connect
import Mathlib.Data.List.TakeWhile

/-! Which connect messages are valid. A message has requirements to meet, which are looked at in order, and the first
one that it does not meet is reported. Strings count only up to their first NUL, in units of UTF-16. -/

namespace ConsoleHost

namespace Text

/-- The longest part of a text, from its start, without a NUL. -/
structure Clips (whole part : String) : Prop where
  starts : part.toList <+: whole.toList
  clear : '\x00' ∉ part.toList
  longest : ∀ other : List Char, other <+: whole.toList → '\x00' ∉ other → other <+: part.toList

/-- Clipping cuts a text before its first NUL and nowhere else. -/
theorem clips_clipAtNul (s : String) : Clips s (clipAtNul s) := by
  constructor
  · rw [toList_clipAtNul]
    exact List.takeWhile_prefix _
  · intro hMem
    rw [toList_clipAtNul] at hMem
    have hClear := List.mem_takeWhile_imp hMem
    simp at hClear
  · intro other hStarts hClear
    rw [toList_clipAtNul]
    obtain ⟨rest, hWhole⟩ := hStarts
    have hAll : ∀ c ∈ other, (fun c => decide (c ≠ '\x00')) c = true := by
      intro c hMem
      rw [decide_eq_true_eq]
      rintro rfl
      exact hClear hMem
    rw [← hWhole, List.takeWhile_append_of_pos hAll]
    exact List.prefix_append other _

def isSupplementary (c : Char) : Bool := 0x10000 ≤ c.toNat

/-- Every character counts once, and the supplementary ones once more. -/
theorem units16_eq (s : String) : units16 s = s.length + s.toList.countP isSupplementary := by
  rw [units16, ← String.length_toList]
  induction s.toList with
  | nil => rfl
  | cons c rest ih =>
      have hUnits : unitsOf c = 1 + if isSupplementary c then 1 else 0 := by
        by_cases hPlain : c.toNat < 0x10000
        · simp [unitsOf, isSupplementary, hPlain]
        · simp [unitsOf, isSupplementary, hPlain, Nat.not_lt.1 hPlain]
      rw [List.foldr_cons, ih, hUnits, List.length_cons, List.countP_cons]
      omega

example : units16 "a😀" = 3 := by decide

end Text

/-- The strings of a message, each up to its first NUL. -/
structure ConnectMessage.Reads (m : ConnectMessage) (appName title directory : String) : Prop where
  appName : Text.Clips m.appName appName
  title : Text.Clips m.title title
  directory : Text.Clips m.directory directory

namespace ConnectInfo

/-- Something that a message has to meet, and the refusal if it does not. -/
structure Requirement where
  met : Bool
  refusal : Refusal

/-- A string that may have so many units. -/
def Requirement.fits (field value : String) (limit : Nat) : Requirement :=
  ⟨Text.units16 value ≤ limit, .oversized field (Text.units16 value) limit⟩

/-- All that is required of a message with these strings, in the order in which it is looked at. -/
def requirements (d : Descriptor) (appName title directory : String) : List Requirement :=
  [⟨d.inputSize = 1760, .oversized "connect message" d.inputSize.toNat 1760⟩,
    ⟨d.process.toNat < 0x100000000, .invalidRequest "process id out of range"⟩,
    ⟨d.object.toNat < 0x100000000, .invalidRequest "thread id out of range"⟩,
    .fits "application name" appName 128,
    .fits "title" title 261,
    .fits "current directory" directory 261]

/-- The refusal for the first requirement that is not met. -/
def objection? (requirements : List Requirement) : Option Refusal :=
  (requirements.find? fun r => !r.met).map Requirement.refusal

/-- The message with these strings, as it was sent. -/
structure Copies (info : ConnectInfo) (d : Descriptor) (m : ConnectMessage) (appName title directory : String) :
    Prop where
  pid_eq : info.pid.toNat = d.process.toNat
  tid_eq : info.tid.toNat = d.object.toNat
  appName_eq : info.appName = appName
  title_eq : info.title = title
  directory_eq : info.directory = directory
  consoleApp_eq : info.consoleApp = m.consoleApp
  windowVisible_eq : info.windowVisible = m.windowVisible
  group_eq : info.group = m.group
  startupFlags_eq : info.startupFlags = m.startupFlags
  showWindow_eq : info.showWindow = m.showWindow
  bufferSize_eq : info.bufferSize = m.bufferSize
  windowSize_eq : info.windowSize = m.windowSize

def copied (d : Descriptor) (m : ConnectMessage) : ConnectInfo where
  pid := d.process.toUInt32
  tid := d.object.toUInt32
  consoleApp := m.consoleApp
  windowVisible := m.windowVisible
  group := m.group
  appName := Text.clipAtNul m.appName
  title := Text.clipAtNul m.title
  directory := Text.clipAtNul m.directory
  startupFlags := m.startupFlags
  showWindow := m.showWindow
  bufferSize := m.bufferSize
  windowSize := m.windowSize

def required (d : Descriptor) (m : ConnectMessage) : List Requirement :=
  requirements d (Text.clipAtNul m.appName) (Text.clipAtNul m.title) (Text.clipAtNul m.directory)

theorem objection?_cons_of_met {r : Requirement} {rest : List Requirement} (h : r.met = true) :
    objection? (r :: rest) = objection? rest := by
  simp [objection?, h]

theorem objection?_cons_of_not_met {r : Requirement} {rest : List Requirement} (h : r.met = false) :
    objection? (r :: rest) = some r.refusal := by
  simp [objection?, h]

/-- There is no objection exactly if every requirement is met. -/
theorem objection?_eq_none_iff {all : List Requirement} : objection? all = none ↔ ∀ r ∈ all, r.met = true := by
  simp [objection?]

/-- An objection is that of a requirement in the list. -/
theorem mem_of_objection? {all : List Requirement} {refusal : Refusal} (h : objection? all = some refusal) :
    ∃ r ∈ all, r.refusal = refusal := by
  obtain ⟨r, hFind, hRefusal⟩ := Option.map_eq_some_iff.1 h
  exact ⟨r, List.mem_of_find?_eq_some hFind, hRefusal⟩

/-- The value if there is nothing to object to. -/
def decided {α : Type} (all : List Requirement) (value : α) : Except Refusal α :=
  match objection? all with
  | some refusal => .error refusal
  | none => .ok value

/-! Each check of a message is the decision on one requirement, and checks made one after the other are the decision on
all of them. -/

/-- A number that has to fit into 32 bits is a requirement like the others. -/
theorem narrow_eq (reason : String) (value : UInt64) :
    narrow reason value = decided [⟨value.toNat < 0x100000000, .invalidRequest reason⟩] value.toUInt32 := by
  have hSize : UInt32.size = 0x100000000 := rfl
  rw [narrow, hSize]
  by_cases hFits : value.toNat < 0x100000000
  · rw [if_pos hFits, decided, objection?_cons_of_met (decide_eq_true hFits)]
    rfl
  · rw [if_neg hFits, decided, objection?_cons_of_not_met (decide_eq_false hFits)]

/-- A text that has to fit is a requirement on its clipped form. -/
theorem bounded_eq (field value : String) (limit : Nat) :
    bounded field value limit = decided [.fits field (Text.clipAtNul value) limit] (Text.clipAtNul value) := by
  by_cases hFits : Text.units16 (Text.clipAtNul value) ≤ limit
  · simp [bounded, decided, objection?, Requirement.fits, hFits]
  · simp [bounded, decided, objection?, Requirement.fits, hFits]

/-- Requirements that are checked one after the other are decided by the list of them. -/
theorem decided_bind {α β : Type} {r : Requirement} {rest : List Requirement} {value : α} {result : β}
    {next : α → Except Refusal β} (h : next value = decided rest result) :
    decided [r] value >>= next = decided (r :: rest) result := by
  cases hMet : r.met with
  | true =>
      rw [decided, decided, objection?_cons_of_met hMet, objection?_cons_of_met hMet]
      exact h
  | false =>
      rw [decided, decided, objection?_cons_of_not_met hMet, objection?_cons_of_not_met hMet]
      rfl

/-- A message is taken over unless there is something to object to. -/
theorem ofMessage_eq (d : Descriptor) (m : ConnectMessage) : ofMessage d m = decided (required d m) (copied d m) := by
  by_cases hSize : d.inputSize = messageSize
  · rw [ofMessage, if_neg (not_not_intro hSize), decided, required, requirements,
      objection?_cons_of_met (decide_eq_true hSize), ← decided]
    simp only [narrow_eq, bounded_eq]
    -- One check after the other, in the order of the requirements.
    apply decided_bind
    apply decided_bind
    apply decided_bind
    apply decided_bind
    apply decided_bind
    rfl
  · rw [ofMessage, if_pos hSize, decided, required, requirements,
      objection?_cons_of_not_met (decide_eq_false hSize)]
    rfl

/-- A list of requirements lets a value pass if there is no objection. -/
theorem decided_eq_ok_iff {α : Type} {all : List Requirement} {value result : α} :
    decided all value = .ok result ↔ objection? all = none ∧ value = result := by
  rw [decided]
  split
  · next hRefused => simp [hRefused]
  · next hNone => simp [hNone]

/-- The refusal is the first objection. -/
theorem decided_eq_error_iff {α : Type} {all : List Requirement} {value : α} {refusal : Refusal} :
    decided all value = .error refusal ↔ objection? all = some refusal := by
  rw [decided]
  split
  · next hRefused => simp [hRefused]
  · next hNone => simp [hNone]

variable {d : Descriptor} {m : ConnectMessage} {info : ConnectInfo}

/-- The requirements on a connect message, written out. -/
theorem objection?_requirements_eq_none_iff {appName title directory : String} :
    objection? (requirements d appName title directory) = none ↔
      d.inputSize = 1760 ∧ d.process.toNat < 0x100000000 ∧ d.object.toNat < 0x100000000 ∧
        Text.units16 appName ≤ 128 ∧ Text.units16 title ≤ 261 ∧ Text.units16 directory ≤ 261 := by
  simp [objection?_eq_none_iff, requirements, Requirement.fits]

/-- A message that is taken over keeps what was sent. -/
theorem copies_of_ofMessage (h : ofMessage d m = .ok info) :
    info.Copies d m (Text.clipAtNul m.appName) (Text.clipAtNul m.title) (Text.clipAtNul m.directory) := by
  rw [ofMessage_eq, decided_eq_ok_iff, required, objection?_requirements_eq_none_iff] at h
  obtain ⟨⟨-, hProcess, hThread, -⟩, rfl⟩ := h
  refine ⟨?_, ?_, rfl, rfl, rfl, rfl, rfl, rfl, rfl, rfl, rfl, rfl⟩
  · exact (UInt64.toNat_toUInt32 _).trans (Nat.mod_eq_of_lt hProcess)
  · exact (UInt64.toNat_toUInt32 _).trans (Nat.mod_eq_of_lt hThread)

/-- Nothing changes if the strings are cut before they are sent. -/
theorem ofMessage_clipped (d : Descriptor) (m : ConnectMessage) :
    ofMessage d { m with
      appName := Text.clipAtNul m.appName
      title := Text.clipAtNul m.title
      directory := Text.clipAtNul m.directory } = ofMessage d m := by
  rw [ofMessage_eq, ofMessage_eq]
  simp only [required, copied, Text.clipAtNul_clipAtNul]

/-- A connect message is valid exactly if it has the size of the structure that clients send, its identifiers fit into
32 bits, and its strings, each up to its first NUL, have no more units of UTF-16 than they may have. A valid message
is kept as it was sent with these strings, and of another one the first requirement that it does not meet is reported,
with the units there are. It makes no difference whether the strings were cut before. -/
theorem validated_in_order (d : Descriptor) (m : ConnectMessage) :
    ∃ appName title directory, m.Reads appName title directory ∧
      ((∃ info, ofMessage d m = .ok info) ↔
        d.inputSize = 1760 ∧ d.process.toNat < 0x100000000 ∧ d.object.toNat < 0x100000000 ∧
          Text.units16 appName ≤ 128 ∧ Text.units16 title ≤ 261 ∧ Text.units16 directory ≤ 261) ∧
      (∀ info, ofMessage d m = .ok info → info.Copies d m appName title directory) ∧
      (∀ refusal, ofMessage d m = .error refusal ↔
        objection? (requirements d appName title directory) = some refusal) ∧
      ofMessage d { m with appName := appName, title := title, directory := directory } = ofMessage d m ∧
      ∀ text, Text.units16 text = text.length + text.toList.countP Text.isSupplementary := by
  have reads : m.Reads (Text.clipAtNul m.appName) (Text.clipAtNul m.title) (Text.clipAtNul m.directory) :=
    ⟨Text.clips_clipAtNul _, Text.clips_clipAtNul _, Text.clips_clipAtNul _⟩
  refine ⟨Text.clipAtNul m.appName, Text.clipAtNul m.title, Text.clipAtNul m.directory, reads, ?_,
    fun _ => copies_of_ofMessage, fun refusal => ?_, ofMessage_clipped d m, Text.units16_eq⟩
  · rw [← objection?_requirements_eq_none_iff, ← required, ofMessage_eq]
    simp only [decided_eq_ok_iff, exists_and_left, exists_eq', and_true]
  · rw [ofMessage_eq, decided_eq_error_iff, required]

end ConnectInfo

end ConsoleHost
