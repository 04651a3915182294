import ConsoleHost.Text.Units

/-!
A fixed number of command-history buffers, lent to processes by application name. A buffer outlives
the process that used it: the next process of the same application gets it back. When all buffers
exist, the free one that was lent out longest ago goes to another application.
-/

namespace ConsoleHost

/-- No buffer is free, and no more can be made. -/
inductive HistoryError where
  | exhausted (capacity : Nat)
  deriving DecidableEq

def HistoryError.message : HistoryError → String
  | exhausted capacity => "all " ++ toString capacity ++ " history buffers are in use"

structure HistoryBuffer where
  appName : String
  /-- The process that has the buffer at present. -/
  owner : Option UInt32
  /-- When the buffer was last lent out, on the clock of its pool. -/
  lastUsed : Nat
  deriving DecidableEq

namespace HistoryBuffer

def isFree (b : HistoryBuffer) : Bool := b.owner.isNone

/-- A free buffer of the same application, whatever the case of ASCII letters in its name. -/
def suits (b : HistoryBuffer) (appName : String) : Bool :=
  b.isFree && Text.sameIgnoringAsciiCase b.appName appName

end HistoryBuffer

/-- The buffers, in the order in which they were made. -/
structure HistoryPool where
  buffers : List HistoryBuffer
  capacity : Nat
  /-- Counts the requests for a buffer, granted or not. -/
  clock : Nat
  deriving DecidableEq

namespace HistoryPool

/-- The number of buffers of a session that does not choose one. -/
def defaultCapacity : Nat := 4

def ofCapacity (capacity : Nat) : HistoryPool := ⟨[], capacity, 0⟩

/-- Index and stamp of the free buffer that was lent out longest ago, the first of several. -/
def oldestFree? : List HistoryBuffer → Option (Nat × Nat)
  | [] => none
  | b :: rest =>
    match b.isFree, oldestFree? rest with
    | false, later => later.map fun (i, stamp) => (i + 1, stamp)
    | true, none => some (0, b.lastUsed)
    | true, some (i, stamp) => if b.lastUsed ≤ stamp then some (0, b.lastUsed) else some (i + 1, stamp)

/-- Where a request for a buffer is served from. -/
inductive Source where
  /-- A free buffer of the same application, kept under its name. -/
  | kept (index : Nat)
  /-- A new buffer behind the others. -/
  | added
  /-- A free buffer of another application, renamed. -/
  | recycled (index : Nat)
  deriving DecidableEq

/-- A buffer of the same application comes first, then a new one, then the one lent out longest
ago. -/
def source? (pool : HistoryPool) (appName : String) : Option Source :=
  match pool.buffers.findIdx? fun b => b.suits appName with
  | some i => some (.kept i)
  | none =>
    if pool.buffers.length < pool.capacity then some .added
    else (oldestFree? pool.buffers).map fun found => .recycled found.1

def tick (pool : HistoryPool) : HistoryPool := { pool with clock := pool.clock + 1 }

/-- Lend a buffer from its source to a process, stamped with the present time. -/
def lend (pool : HistoryPool) (appName : String) (pid : UInt32) : Source → HistoryPool
  | .kept i =>
    { pool with buffers := pool.buffers.modify i fun b =>
        { b with owner := some pid, lastUsed := pool.clock } }
  | .added => { pool with buffers := pool.buffers ++ [⟨appName, some pid, pool.clock⟩] }
  | .recycled i =>
    { pool with buffers := pool.buffers.modify i fun _ => ⟨appName, some pid, pool.clock⟩ }

/-- Ask for a buffer. The clock advances even when none is left. -/
def request (pool : HistoryPool) (appName : String) (pid : UInt32) : HistoryPool :=
  match pool.source? appName with
  | none => pool.tick
  | some source => pool.tick.lend appName pid source

/-- The application name of the buffer that a request would be given. -/
def offer? (pool : HistoryPool) (appName : String) : Except HistoryError String :=
  match pool.source? appName with
  | none => .error (.exhausted pool.capacity)
  | some (.kept i) => .ok ((pool.buffers[i]?.map HistoryBuffer.appName).getD appName)
  | some _ => .ok appName

def isOwnedBy (pid : UInt32) (b : HistoryBuffer) : Bool := b.owner == some pid

def find? (pool : HistoryPool) (pid : UInt32) : Option HistoryBuffer :=
  pool.buffers.find? (isOwnedBy pid)

/-- Take the first buffer of a process back. It stays for the next process of its application. -/
def giveBack (pool : HistoryPool) (pid : UInt32) : HistoryPool :=
  match pool.buffers.findIdx? (isOwnedBy pid) with
  | none => pool
  | some i => { pool with buffers := pool.buffers.modify i fun b => { b with owner := none } }

end HistoryPool

end ConsoleHost
