import ConsoleHost.Registry

/-!
The connected client processes, in the order in which they connected.
-/

namespace ConsoleHost

/-- What the session knows of one connected process. -/
structure ProcessRecord where
  pid : UInt32
  tid : UInt32
  group : UInt32
  /-- The process that the session was brought up for. -/
  root : Bool
  /-- Allowed to take the foreground. -/
  foreground : Bool
  /-- Primary handles, opened while the process connects. -/
  input : Option HandleId
  output : Option HandleId
  /-- The token by which later requests address the process. -/
  token : Option Nat
  deriving DecidableEq

/-- A process that has just joined: no rights, no handles, no token. -/
def ProcessRecord.joining (pid tid group : UInt32) (root : Bool) : ProcessRecord :=
  ⟨pid, tid, group, root, false, none, none, none⟩

/-- The primary handles a record holds, input before output. -/
def ProcessRecord.primaryHandles (p : ProcessRecord) : List HandleId :=
  p.input.toList ++ p.output.toList

structure ProcessTable where
  records : List ProcessRecord
  deriving DecidableEq

namespace ProcessTable

def empty : ProcessTable := ⟨[]⟩

def isEmpty (t : ProcessTable) : Bool := t.records.isEmpty

def pids (t : ProcessTable) : List UInt32 := t.records.map ProcessRecord.pid

def find? (t : ProcessTable) (pid : UInt32) : Option ProcessRecord :=
  t.records.find? fun p => p.pid = pid

/-- The record that a token addresses. A record without a token is never addressed. -/
def findByToken? (t : ProcessTable) (token : Nat) : Option ProcessRecord :=
  t.records.find? fun p => p.token = some token

/-- Append a record. A process identifier can be connected only once. -/
def join (t : ProcessTable) (record : ProcessRecord) : Except Refusal ProcessTable :=
  match t.find? record.pid with
  | some _ => .error (.alreadyConnected record.pid)
  | none => .ok ⟨t.records ++ [record]⟩

def update (t : ProcessTable) (pid : UInt32) (change : ProcessRecord → ProcessRecord) :
    ProcessTable :=
  ⟨t.records.map fun p => if p.pid = pid then change p else p⟩

def erase (t : ProcessTable) (pid : UInt32) : ProcessTable :=
  ⟨t.records.eraseP fun p => p.pid = pid⟩

/-- The processes whose foreground right differs from `on`, in connection order. -/
def differingFrom (t : ProcessTable) (on : Bool) : List UInt32 :=
  (t.records.filter fun p => p.foreground ≠ on).map ProcessRecord.pid

def setForeground (t : ProcessTable) (on : Bool) : ProcessTable :=
  ⟨t.records.map fun p => { p with foreground := on }⟩

end ProcessTable

/-- Remove a process and close the primary handles it still holds. A primary handle that was closed
before is passed over. -/
def ProcessTable.release (t : ProcessTable) (registry : Registry) (pid : UInt32) :
    Option (ProcessRecord × ProcessTable × Registry) :=
  (t.find? pid).map fun record =>
    (record, t.erase pid, record.primaryHandles.foldl Registry.discardHandle registry)

end ConsoleHost
