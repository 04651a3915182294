import ConsoleHost.Endpoint
import ConsoleHost.Registry.Sharing
import ConsoleHost.Registry.Table
import ConsoleHost.Status

/-!
The registry of session objects and of the handles opened on them. Identifiers count upwards from one
and are never given out twice. An object that the session does not pin goes away with its last
handle.
-/

namespace ConsoleHost

structure ObjectId where
  number : Nat
  deriving DecidableEq

def ObjectId.text (id : ObjectId) : String := "obj#" ++ toString id.number

/-- Names an open handle. Its number is also the token that clients use for it. -/
structure HandleId where
  number : Nat
  deriving DecidableEq

def HandleId.text (id : HandleId) : String := Hex.lower id.number

/-- A session object with its sharing state. A pinned object is held by the session itself. -/
structure SessionObject where
  endpoint : Endpoint
  counts : SharingCounts
  pinned : Bool
  deriving DecidableEq

/-- An open handle: the object it is on, the kind of that object, and how it was opened. -/
structure IoHandle where
  object : ObjectId
  kind : EndpointKind
  access : AccessMask
  share : ShareMode
  deriving DecidableEq

/-- All live objects and handles, with the numbers given out last. -/
structure Registry where
  objects : Table ObjectId SessionObject
  handles : Table HandleId IoHandle
  lastObject : Nat
  lastHandle : Nat
  deriving DecidableEq

namespace Registry

def empty : Registry := ⟨.empty, .empty, 0, 0⟩

def object? (r : Registry) (id : ObjectId) : Option SessionObject := r.objects.get? id

def handle? (r : Registry) (id : HandleId) : Option IoHandle := r.handles.get? id

/-- The live handles on one object, oldest first. -/
def handlesOn (r : Registry) (id : ObjectId) : List IoHandle :=
  r.handles.values.filter fun h => h.object = id

def nextObject (r : Registry) : ObjectId := ⟨r.lastObject + 1⟩

def nextHandle (r : Registry) : HandleId := ⟨r.lastHandle + 1⟩

/-- Add an object that nobody has open, under `nextObject`. -/
def create (r : Registry) (endpoint : Endpoint) (pinned : Bool) : Registry :=
  { r with
    objects := r.objects.insert r.nextObject ⟨endpoint, .zero, pinned⟩
    lastObject := r.lastObject + 1 }

/-- Let go of the session's hold on an object. The object goes away if nobody has it open. -/
def unpin (r : Registry) (id : ObjectId) : Registry :=
  match r.object? id with
  | none => r
  | some object =>
    if object.counts.opens = 0 then { r with objects := r.objects.erase id }
    else { r with objects := r.objects.set id { object with pinned := false } }

/-- Open a handle, under `nextHandle`, on a live object that admits the opener. -/
def openHandle (r : Registry) (id : ObjectId) (access : AccessMask) (share : ShareMode) :
    Except Refusal HandleId × Registry :=
  match r.object? id with
  | none => (.error (.invalidRequest "object does not exist"), r)
  | some object =>
    if object.counts.permits access share then
      (.ok r.nextHandle,
        { r with
          objects := r.objects.set id { object with counts := object.counts.add access share }
          handles := r.handles.insert r.nextHandle ⟨id, object.endpoint.kind, access, share⟩
          lastHandle := r.lastHandle + 1 })
    else (.error (.sharingViolation id.number), r)

/-- Take one opener away from an object, and the object with its last opener unless it is pinned. -/
def forgetOpener (r : Registry) (h : IoHandle) : Registry :=
  match r.object? h.object with
  | none => r
  | some object =>
    let counts := object.counts.remove h.access h.share
    if counts.opens = 0 ∧ object.pinned = false then
      { r with objects := r.objects.erase h.object }
    else { r with objects := r.objects.set h.object { object with counts := counts } }

/-- Close a handle, answering what it was. -/
def closeHandle (r : Registry) (id : HandleId) : Except Refusal IoHandle × Registry :=
  match r.handle? id with
  | none => (.error (.handleNotOpen id.number), r)
  | some h => (.ok h, { r with handles := r.handles.erase id }.forgetOpener h)

def discardHandle (r : Registry) (id : HandleId) : Registry := (r.closeHandle id).2

def openCount? (r : Registry) (id : ObjectId) : Option UInt32 :=
  (r.object? id).map fun object => object.counts.opens

end Registry

end ConsoleHost
