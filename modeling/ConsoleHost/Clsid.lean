import ConsoleHost.Text.Hex
import ConsoleHost.Text.Units

/-!
Class identifiers: 128-bit numbers, written as 32 hexadecimal digits in groups of 8, 4, 4, 4 and 12.
`Clsid.text` is the braced upper-case form. Whatever reads identifiers is given a `Clsid.Reader` for it;
one that takes every usual form is `Clsid.Reader.ofUsualForms`.
-/

namespace ConsoleHost

structure Clsid where
  value : BitVec 128
  deriving DecidableEq

namespace Clsid

def groupSizes : List Nat := [8, 4, 4, 4, 12]

def hyphenate : List Nat → List Char → List Char
  | [], _ => []
  | [n], digits => digits.take n
  | n :: sizes, digits => digits.take n ++ '-' :: hyphenate sizes (digits.drop n)

/-- The digits of a text whose groups have these sizes and are separated by single hyphens. -/
def ungroup? : List Nat → List Char → Option (List Char)
  | [], cs => if cs.isEmpty then some [] else none
  | [n], cs => if cs.length = n then some cs else none
  | n :: sizes, cs =>
    match cs.drop n with
    | '-' :: rest => (ungroup? sizes rest).map (cs.take n ++ ·)
    | _ => none

/-- The identifier with these 32 digits, most significant first. -/
def ofDigits? (digits : List Char) : Option Clsid := do
  let values ← digits.mapM Hex.digitValue?
  if values.length = 32 then
    some ⟨BitVec.ofNat 128 (values.foldl (fun n d => 16 * n + d) 0)⟩
  else none

def ofOctets? (octets : List UInt8) : Option Clsid :=
  if octets.length = 16 then
    some ⟨BitVec.ofNat 128 (octets.foldl (fun n b => 256 * n + b.toNat) 0)⟩
  else none

/-- The digits of a text in one of the forms: 32 digits in a row, the groups with hyphens, the groups
in one pair of braces, or the groups behind `urn:uuid:` in any case. -/
def digitsOf? (cs : List Char) : Option (List Char) :=
  if cs.length = 32 then some cs
  else if cs.length = 36 then ungroup? groupSizes cs
  else if cs.length = 38 then
    match cs with
    | '\x7b' :: rest =>
      if rest.getLast? = some '\x7d' then ungroup? groupSizes rest.dropLast else none
    | _ => none
  else if cs.length = 45 then
    if Text.sameIgnoringAsciiCase (String.ofList (cs.take 9)) "urn:uuid:" then
      ungroup? groupSizes (cs.drop 9)
    else none
  else none

/-- The identifier that a text in one of the usual forms stands for. -/
def parse? (s : String) : Option Clsid :=
  (digitsOf? s.toList).bind ofDigits?

def isBrace (c : Char) : Bool := c = '\x7b' || c = '\x7d'

/-- A text without the braces at its two ends, however many and in whatever mix. -/
def trimBraces (s : String) : String :=
  String.ofList ((s.toList.dropWhile isBrace).reverse.dropWhile isBrace).reverse

/-- Reads an identifier, or says what is wrong with the text. -/
abbrev Reader := String → Except String Clsid

/-- The reader of the usual forms, with an explanation for every other text. -/
def Reader.ofUsualForms (explain : String → String) : Reader := fun s =>
  match parse? s with
  | some id => .ok id
  | none => .error (explain s)

/-- Read an identifier given by hand: braces around it do not matter. -/
def ofArgument (read : Reader) (s : String) : Except String Clsid :=
  read (trimBraces s)

def digits (id : Clsid) : List Char :=
  Hex.upperPadded 32 id.value.toNat

/-- The groups in braces, in upper case. -/
def text (id : Clsid) : String :=
  String.ofList ('\x7b' :: hyphenate groupSizes id.digits ++ ['\x7d'])

end Clsid

end ConsoleHost
