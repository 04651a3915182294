import ConsoleHost.Toml.Quoted
import ConsoleHost.Toml.Table

/-!
Keys. A part of a key is bare or quoted on one line, and points separate the parts.
-/

namespace ConsoleHost.Toml

/-- The characters of bare keys: ASCII letters and digits, the underscore and the hyphen. -/
def isBare (c : Char) : Bool := c.isAlphanum || c = '_' || c = '-'

/-- One part of a key. A quoted one may be empty. -/
def keyPart? (cs : List Char) : Option (String × List Char) :=
  match cs with
  | '"' :: rest => (singleLine? .basic rest).map fun (text, rest) => (String.ofList text, rest)
  | '\x27' :: rest => (singleLine? .literal rest).map fun (text, rest) => (String.ofList text, rest)
  | _ =>
    match cs.takeWhile isBare with
    | [] => none
    | bare => some (String.ofList bare, cs.dropWhile isBare)

/-- The parts of a key, at most so many, with the blanks around them. -/
def keyParts? : Nat → List Char → Option (List String × List Char)
  | 0, _ => none
  | limit + 1, cs => do
    let (part, rest) ← keyPart? (skipBlanks cs)
    match skipBlanks rest with
    | '.' :: rest =>
      let (parts, rest) ← keyParts? limit rest
      return (part :: parts, rest)
    | rest => return ([part], rest)

def keyPartLimit : Nat := 79

def key? (cs : List Char) : Option (DottedKey × List Char) := do
  let (parts, rest) ← keyParts? keyPartLimit cs
  let last ← parts.getLast?
  return (⟨parts.dropLast, last⟩, rest)

end ConsoleHost.Toml
