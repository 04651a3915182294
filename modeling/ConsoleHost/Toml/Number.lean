import ConsoleHost.Text.Hex
import ConsoleHost.Toml.Table

/-!
Numbers. An integer is decimal with an optional sign, or hexadecimal, octal or binary without one, and
fits into 64 signed bits. A fractional number has a fraction or an exponent or both, or is `inf` or
`nan`. Single underscores may stand between digits.
-/

namespace ConsoleHost.Toml

/-- The digits behind a first one, and what follows them. An underscore belongs to them only between two
digits. -/
def moreDigits (isDigit : Char → Bool) : List Char → List Char × List Char
  | [] => ([], [])
  | '_' :: c :: rest =>
    if isDigit c then
      let (digits, rest) := moreDigits isDigit rest
      (c :: digits, rest)
    else ([], '_' :: c :: rest)
  | c :: rest =>
    if isDigit c then
      let (digits, rest) := moreDigits isDigit rest
      (c :: digits, rest)
    else ([], c :: rest)

def digits? (isDigit : Char → Bool) : List Char → Option (List Char × List Char)
  | [] => none
  | c :: rest =>
    if isDigit c then
      let (digits, rest) := moreDigits isDigit rest
      some (c :: digits, rest)
    else none

/-- The number with these digits, most significant first. -/
def valueOf (base : Nat) (digits : List Char) : Nat :=
  digits.foldl (fun n c => base * n + (Hex.digitValue? c).getD 0) 0

/-- Take a sign, if there is one: whether it is a minus, and what follows. -/
def sign : List Char → Bool × List Char
  | '-' :: rest => (true, rest)
  | '+' :: rest => (false, rest)
  | cs => (false, cs)

/-- A decimal whole number without superfluous zeros: whether it is negative, and its digits. -/
def whole? (cs : List Char) : Option ((Bool × List Char) × List Char) :=
  match sign cs with
  | (negative, '0' :: rest) => some ((negative, ['0']), rest)
  | (negative, rest) => (digits? Char.isDigit rest).map fun (digits, rest) => ((negative, digits), rest)

def inRange (n : Int) : Bool := -0x8000000000000000 ≤ n && n < 0x8000000000000000

/-- An integer in a base with a letter of its own, behind the letter. -/
def basedInteger? (base : Nat) (cs : List Char) : Option (Item × List Char) := do
  let (digits, rest) ← digits? (fun c => (Hex.digitValue? c).any (· < base)) cs
  let value : Int := valueOf base digits
  if inRange value then some (.integer value, rest) else none

def integer? : List Char → Option (Item × List Char)
  | '0' :: 'x' :: rest => basedInteger? 16 rest
  | '0' :: 'o' :: rest => basedInteger? 8 rest
  | '0' :: 'b' :: rest => basedInteger? 2 rest
  | cs => do
    let ((negative, digits), rest) ← whole? cs
    let size : Int := valueOf 10 digits
    let value := if negative then -size else size
    if inRange value then some (.integer value, rest) else none

/-- The fraction behind a whole number: its digits, of which there are none without a point. -/
def fraction? : List Char → Option (List Char × List Char)
  | '.' :: rest => digits? Char.isDigit rest
  | cs => some ([], cs)

/-- The exponent behind a number. -/
def exponent? : List Char → Option (Int × List Char)
  | 'e' :: rest | 'E' :: rest => do
    let (negative, rest) := sign rest
    let (digits, rest) ← digits? Char.isDigit rest
    let size : Int := valueOf 10 digits
    some (if negative then -size else size, rest)
  | cs => some (0, cs)

/-- The least number that a 64-bit binary fraction can only round to infinity. -/
def overflowBound : Nat := Nat.pow 2 1024 - Nat.pow 2 970

/-- The number with these digits, times this power of ten, rounds to infinity. -/
def overflows (digits : List Char) (power : Int) : Bool :=
  let size := valueOf 10 digits
  if size = 0 then false
  else if 400 < power then true
  else if power < -digits.length then false
  else overflowBound * Nat.pow 10 (-power).toNat ≤ size * Nat.pow 10 power.toNat

/-- A number with a fraction or an exponent. It must not round to positive infinity. -/
def fractional? (cs : List Char) : Option (Item × List Char) := do
  let ((negative, units), rest) ← whole? cs
  if rest.head?.any ['.', 'e', 'E'].contains then
    let (fraction, rest) ← fraction? rest
    let (exponent, rest) ← exponent? rest
    if !negative && overflows (units ++ fraction) (exponent - fraction.length) then none
    else some (.float, rest)
  else none

/-- Infinity, or what is not a number, with or without a sign. -/
def notFinite? (cs : List Char) : Option (Item × List Char) :=
  match (sign cs).2 with
  | 'i' :: 'n' :: 'f' :: rest => some (.float, rest)
  | 'n' :: 'a' :: 'n' :: rest => some (.float, rest)
  | _ => none

def number? (cs : List Char) : Option (Item × List Char) :=
  (fractional? cs).or ((notFinite? cs).or (integer? cs))

end ConsoleHost.Toml
