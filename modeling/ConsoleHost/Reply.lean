import ConsoleHost.LittleEndian
import ConsoleHost.Request

/-!
Answers to requests, and the ways in which a request can be finished.
-/

namespace ConsoleHost

structure Reply where
  identifier : UInt64
  status : Status
  /-- A handle token or a byte count. -/
  information : Nat
  payload : List UInt8
  deriving DecidableEq

/-- The plain answer to a message: a status and nothing else. -/
def Message.reply (m : Message) (status : Status) : Reply :=
  ⟨m.descriptor.identifier, status, 0, []⟩

structure ConnectionTokens where
  process : Nat
  input : Nat
  output : Nat
  deriving DecidableEq

namespace ConnectionTokens

def size : Nat := 24

/-- Three 64-bit words: process, input, output. -/
def toBytes (t : ConnectionTokens) : List UInt8 :=
  LittleEndian.bytes 8 t.process ++ LittleEndian.bytes 8 t.input ++ LittleEndian.bytes 8 t.output

/-- The tokens that 24 bytes stand for. -/
def ofBytes? (bs : List UInt8) : Option ConnectionTokens :=
  if bs.length = size then
    some
      { process := LittleEndian.value (bs.take 8)
        input := LittleEndian.value ((bs.drop 8).take 8)
        output := LittleEndian.value (bs.drop 16) }
  else none

@[simp] theorem length_toBytes (t : ConnectionTokens) : t.toBytes.length = size := by
  simp [toBytes, size]

/-- Tokens of 64 bits survive the wire. -/
theorem ofBytes?_toBytes (t : ConnectionTokens)
    (hProcess : t.process < LittleEndian.capacity 8) (hInput : t.input < LittleEndian.capacity 8)
    (hOutput : t.output < LittleEndian.capacity 8) :
    ofBytes? t.toBytes = some t := by
  have h (n : Nat) (hn : n < LittleEndian.capacity 8) :
      LittleEndian.value (LittleEndian.bytes 8 n) = n := by
    rw [LittleEndian.value_bytes]
    exact Nat.mod_eq_of_lt hn
  simp only [ofBytes?, length_toBytes, ↓reduceIte, Option.some.injEq]
  simp [toBytes, List.drop_append,
    List.drop_of_length_le, h _ hProcess, h _ hInput, h _ hOutput]

end ConnectionTokens

inductive Completion where
  /-- The caller still has to write this reply back. -/
  | reply (reply : Reply)
  /-- The transport has been given the reply. -/
  | completed
  /-- The API layer completes the request later. -/
  | pending
  /-- Another terminal hosts the session now. -/
  | handedOff
  deriving DecidableEq

end ConsoleHost
