/-!
Hexadecimal text of numbers. `lower` has no padding and writes zero as a single digit; `upperPadded`
fills with zeros on the left and never drops a digit.
-/

namespace ConsoleHost.Hex

/-- The lower-case hexadecimal digits of a number behind `0x`, without padding. -/
def lower (n : Nat) : String :=
  String.ofList ('0' :: 'x' :: Nat.toDigits 16 n)

/-- The upper-case hexadecimal digits of a number, filled with zeros to at least `width` digits. -/
def upperPadded (width n : Nat) : List Char :=
  let digits := (Nat.toDigits 16 n).map Char.toUpper
  List.replicate (width - digits.length) '0' ++ digits

/-- The value of a hexadecimal digit of either case. -/
def digitValue? (c : Char) : Option Nat :=
  if '0' ≤ c ∧ c ≤ '9' then some (c.toNat - '0'.toNat)
  else if 'a' ≤ c ∧ c ≤ 'f' then some (c.toNat - 'a'.toNat + 10)
  else if 'A' ≤ c ∧ c ≤ 'F' then some (c.toNat - 'A'.toNat + 10)
  else none

end ConsoleHost.Hex
