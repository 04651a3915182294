import ConsoleHost.BringUp
import ConsoleHost.Clsid
import ConsoleHost.History
import ConsoleHost.Toml.Document

/-!
Settings, as a TOML document gives them. What a document leaves out keeps its default, keys that mean
nothing are ignored, and a value of the wrong type or out of range makes the whole document unusable.
-/

namespace ConsoleHost

structure Settings where
  logLevel : String
  /-- The registered handoff handler. -/
  target : Option Clsid
  /-- How many command-history buffers there are. -/
  historyBuffers : Nat
  session : SessionDefaults
  deriving DecidableEq

/-- The fields of a section, found by position or by name. -/
abbrev Toml.Section := Nat → String → Option Toml.Item

namespace Toml.Item

/-- A section is a table, or the list of its fields in order, which may be too short or too long. A date
counts as a table without any of the fields. -/
def section? : Item → Option Toml.Section
  | table _ entries => some fun _ name => entries.lookup name
  | array items => some fun position _ => items[position]?
  | tables elements => some fun position _ => elements[position]?.map (table .header)
  | dateTime => some fun _ _ => none
  | _ => none

def text? : Item → Option String
  | string s => some s
  | _ => none

/-- An integer from zero up to a bound, which itself is too large. -/
def natBelow? (bound : Nat) : Item → Option Nat
  | integer n => if 0 ≤ n ∧ n < bound then some n.toNat else none
  | _ => none

def octet? (item : Item) : Option UInt8 := (item.natBelow? UInt8.size).map UInt8.ofNat

def cells? (item : Item) : Option UInt16 := (item.natBelow? UInt16.size).map UInt16.ofNat

/-- An identifier as a text, or as the list of its octets. -/
def clsid? (read : Clsid.Reader) : Item → Option Clsid
  | string s => (read s).toOption
  | array items => (items.take 16).mapM octet? >>= Clsid.ofOctets?
  | _ => none

end Toml.Item

namespace Settings

def standard : Settings := ⟨"info", none, HistoryPool.defaultCapacity, .standard⟩

/-- A field that may be missing, in which case it has its default. -/
def fieldOr {α : Type} (default : α) (read? : Toml.Item → Option α) : Option Toml.Item → Option α
  | none => some default
  | some item => read? item

def targetIn? (read : Clsid.Reader) (fields : Toml.Section) : Option (Option Clsid) :=
  fieldOr none (fun item => (item.clsid? read).map some) (fields 0 "target")

/-- The least number of history buffers that is too large. -/
def bufferBound : Nat := 0x8000000000000000

def withSession? (s : Settings) (fields : Toml.Section) : Option Settings := do
  let d := s.session
  let buffers ← fieldOr s.historyBuffers (Toml.Item.natBelow? bufferBound) (fields 0 "history_buffers")
  let bufferWidth ← fieldOr d.bufferSize.width Toml.Item.cells? (fields 1 "screen_width")
  let bufferHeight ← fieldOr d.bufferSize.height Toml.Item.cells? (fields 2 "screen_height")
  let windowWidth ← fieldOr d.windowSize.width Toml.Item.cells? (fields 3 "window_width")
  let windowHeight ← fieldOr d.windowSize.height Toml.Item.cells? (fields 4 "window_height")
  let title ← fieldOr d.title Toml.Item.text? (fields 5 "default_title")
  return { s with
    historyBuffers := buffers
    session := ⟨⟨bufferWidth, bufferHeight⟩, ⟨windowWidth, windowHeight⟩, title⟩ }

def ofTable? (read : Clsid.Reader) (t : Toml.Table) : Option Settings := do
  let logLevel ← fieldOr standard.logLevel Toml.Item.text? (t.lookup "log_level")
  let target ← fieldOr none (fun item => item.section? >>= targetIn? read) (t.lookup "handoff")
  let settings : Settings := { standard with logLevel := logLevel, target := target }
  fieldOr settings (fun item => item.section? >>= settings.withSession?) (t.lookup "session")

def parse? (read : Clsid.Reader) (text : String) : Option Settings :=
  Toml.parse? text >>= ofTable? read

/-- What is found under the name of a settings file. -/
inductive Found where
  | nothing
  | directory
  | bytes (content : List UInt8)

inductive LoadError where
  | unreadable (name reason : String)
  | malformed (name : String)
  deriving DecidableEq

def LoadError.message : LoadError → String
  | unreadable name reason => "Failed to read " ++ name ++ ": " ++ reason
  | malformed name => "Failed to parse " ++ name

def load (read : Clsid.Reader) (name : String) : Found → Except LoadError Settings
  | .nothing => .error (.unreadable name "No such file or directory (os error 2)")
  | .directory => .error (.unreadable name "Is a directory (os error 21)")
  | .bytes content =>
    match String.fromUTF8? ⟨content.toArray⟩ with
    | none => .error (.unreadable name "stream did not contain valid UTF-8")
    | some text =>
      match parse? read text with
      | none => .error (.malformed name)
      | some settings => .ok settings

/-- The settings in force when a file has been looked for: its own if it can be used, or the
standard ones. -/
def ofFound (read : Clsid.Reader) (name : String) (found : Found) : Settings :=
  match load read name found with
  | .ok settings => settings
  | .error _ => standard

end Settings

end ConsoleHost
