import ConsoleHost.Endpoint

/-!
Outlines of the values that an accepted handoff leaves behind, for diagnosis. An outline names every
layer around a handle, on one line or indented over several.
-/

namespace ConsoleHost.Handoff

inductive Outline where
  | number (n : Nat)
  /-- A named value around another one. -/
  | wrapped (name : String) (content : Outline)
  /-- A record, of which one field is shown. -/
  | record (name field : String) (content : Outline)

namespace Outline

def compact : Outline → String
  | number n => toString n
  | wrapped name content => name ++ "(" ++ content.compact ++ ")"
  | record name field content => name ++ " \x7b " ++ field ++ ": " ++ content.compact ++ " \x7d"

def indentation : String := "    "

/-- The outline over several lines, each of which but the first starts with the indentation given. -/
def indented (start : String) : Outline → String
  | number n => toString n
  | wrapped name content =>
    let inner := start ++ indentation
    name ++ "(\n" ++ inner ++ content.indented inner ++ ",\n" ++ start ++ ")"
  | record name field content =>
    let inner := start ++ indentation
    name ++ " \x7b\n" ++ inner ++ field ++ ": " ++ content.indented inner ++ ",\n" ++ start ++ "\x7d"

def pretty (o : Outline) : String := o.indented ""

def ofHandle (h : RawHandle) : Outline :=
  record "LocalHandle" "raw" (wrapped "RawHandle" (number h.value.toNat))

/-- The signal pipe, by the end that the handler was given. -/
def ofSignalPipe (farEnd : RawHandle) : Outline := record "SignalPipe" "theirs" (ofHandle farEnd)

/-- An accepted handoff, by the process that represents the new host. -/
def ofEstablished (representative : RawHandle) : Outline :=
  record "EstablishedHandoff" "representative" (ofHandle representative)

end Outline

end ConsoleHost.Handoff
