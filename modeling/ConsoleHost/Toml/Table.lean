/-!
The values of a TOML document, and tables that grow while it is read. A table remembers how it came to
be, because that decides what later parts of the document may still add to it.
-/

namespace ConsoleHost.Toml

/-- How a table came to be. -/
inductive Origin where
  /-- It has a header of its own, or is the document. -/
  | header
  /-- It lies on the way to a table with a header. -/
  | headerPath
  /-- It lies on the way to a dotted key. -/
  | keyPath
  /-- It was written as a value, in braces. -/
  | braces
  deriving DecidableEq

/-- A value. Of fractional numbers and of dates only the kind is kept: no setting has such a value. -/
inductive Item where
  | string (s : String)
  | integer (n : Int)
  | float
  | boolean (b : Bool)
  | dateTime
  | array (items : List Item)
  | table (origin : Origin) (entries : List (String × Item))
  /-- The tables under a repeated header. -/
  | tables (elements : List (List (String × Item)))

/-- The entries of a table in the order of the document. -/
abbrev Table := List (String × Item)

/-- A key of one or more parts. -/
structure DottedKey where
  /-- All parts but the last. -/
  front : List String
  last : String
  deriving DecidableEq

/-- What leads from a table to one inside it. -/
inductive Route where
  | header
  | key
  deriving DecidableEq

/-- The origin of a table that a route passes through before anything else mentions it. -/
def Route.origin : Route → Origin
  | header => .headerPath
  | key => .keyPath

/-- A header passes through every table but one in braces. A dotted key passes only through tables that
have no place of their own in the document. -/
def Route.enters : Route → Origin → Bool
  | header, origin => origin ≠ .braces
  | key, origin => origin = .headerPath || origin = .keyPath

namespace Table

def add? (t : Table) (key : String) (item : Item) : Option Table :=
  if (t.lookup key).isSome then none else some (t ++ [(key, item)])

/-- Give a key that is in use another value, in its place. -/
def replace (t : Table) (key : String) (item : Item) : Table :=
  t.map fun entry => if entry.1 = key then (key, item) else entry

/-- Change the table at the end of a route. Tables missing on the way are made, and of the tables under
a repeated header the last one is meant. -/
def changeAt? (route : Route) (change : Origin → Table → Option Table) :
    List String → Origin → Table → Option Table
  | [], origin, t => change origin t
  | key :: keys, _, t =>
    match t.lookup key with
    | none =>
      (changeAt? route change keys route.origin []).map fun inner =>
        t ++ [(key, .table route.origin inner)]
    | some (.table origin inner) =>
      if route.enters origin then
        (changeAt? route change keys origin inner).map fun inner =>
          t.replace key (.table origin inner)
      else none
    | some (.tables elements) =>
      elements.getLast?.bind fun last =>
        (changeAt? route change keys .header last).map fun last =>
          t.replace key (.tables (elements.dropLast ++ [last]))
    | some _ => none

/-- Give a dotted key a value. Of the tables that have a place of their own, only the one that the
document is in may gain an entry. -/
def assign? (t : Table) (key : DottedKey) (item : Item) : Option Table :=
  t.changeAt? .key
    (fun origin inner =>
      if key.front.isEmpty || origin = .keyPath then inner.add? key.last item else none)
    key.front .header

/-- The table that a header stands for. It may have been passed through before, but not more. -/
def openTable? (t : Table) (key : DottedKey) : Option Table :=
  t.changeAt? .header
    (fun _ parent =>
      match parent.lookup key.last with
      | none => some (parent ++ [(key.last, .table .header [])])
      | some (.table .headerPath inner) => some (parent.replace key.last (.table .header inner))
      | some _ => none)
    key.front .header

/-- One more table under a repeated header. -/
def openElement? (t : Table) (key : DottedKey) : Option Table :=
  t.changeAt? .header
    (fun _ parent =>
      match parent.lookup key.last with
      | none => some (parent ++ [(key.last, .tables [[]])])
      | some (.tables elements) =>
        some (parent.replace key.last (.tables (elements ++ [[]])))
      | some _ => none)
    key.front .header

/-- The table of some assignments, made in order. -/
def ofAssignments? (assignments : List (DottedKey × Item)) : Option Table :=
  assignments.foldlM (fun t (key, item) => t.assign? key item) []

end Table

end ConsoleHost.Toml
