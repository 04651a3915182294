/-!
Dates and times of day. A date may be followed by a time, and that by an offset; a time may also stand
alone. Whatever does not continue a date or a time is left over.
-/

namespace ConsoleHost.Toml

def fixedDigits? (count : Nat) (cs : List Char) : Option (Nat × List Char) :=
  let digits := cs.take count
  if digits.length = count ∧ digits.all Char.isDigit then
    some (digits.foldl (fun n c => 10 * n + (c.toNat - '0'.toNat)) 0, cs.drop count)
  else none

/-- Two digits with a value between two bounds. -/
def twoDigits? (low high : Nat) (cs : List Char) : Option (Nat × List Char) := do
  let (n, rest) ← fixedDigits? 2 cs
  if low ≤ n ∧ n ≤ high then some (n, rest) else none

def separator? (c : Char) : List Char → Option (List Char)
  | [] => none
  | d :: rest => if d = c then some rest else none

def isLeapYear (year : Nat) : Bool :=
  year % 4 = 0 && (year % 100 ≠ 0 || year % 400 = 0)

def daysIn (year month : Nat) : Nat :=
  match month with
  | 2 => if isLeapYear year then 29 else 28
  | 4 | 6 | 9 | 11 => 30
  | _ => 31

/-- A date that the calendar has: year, month and day. -/
def date? (cs : List Char) : Option (List Char) := do
  let (year, rest) ← fixedDigits? 4 cs
  let rest ← separator? '-' rest
  let (month, rest) ← twoDigits? 1 12 rest
  let rest ← separator? '-' rest
  let (_, rest) ← twoDigits? 1 (daysIn year month) rest
  return rest

def secondFraction : List Char → List Char
  | '.' :: c :: rest => if c.isDigit then rest.dropWhile Char.isDigit else '.' :: c :: rest
  | cs => cs

def clock? (cs : List Char) : Option (List Char) := do
  let (_, rest) ← twoDigits? 0 23 cs
  let rest ← separator? ':' rest
  let (_, rest) ← twoDigits? 0 59 rest
  return rest

/-- A time of day. The second 60 is a leap second. -/
def time? (cs : List Char) : Option (List Char) := do
  let rest ← clock? cs
  let rest ← separator? ':' rest
  let (_, rest) ← twoDigits? 0 60 rest
  return secondFraction rest

def offset (cs : List Char) : List Char :=
  match cs with
  | 'Z' :: rest | 'z' :: rest => rest
  | '+' :: rest | '-' :: rest => (clock? rest).getD cs
  | _ => cs

def timeAfterDate (cs : List Char) : List Char :=
  match cs with
  | 'T' :: rest | 't' :: rest | ' ' :: rest =>
    match time? rest with
    | some rest => offset rest
    | none => cs
  | _ => cs

/-- Take a date, a time, or both. -/
def dateTime? (cs : List Char) : Option (List Char) :=
  match date? cs with
  | some rest => some (timeAfterDate rest)
  | none => time? cs

end ConsoleHost.Toml
