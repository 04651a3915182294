import ConsoleHost.Toml.DateTime
import ConsoleHost.Toml.Key
import ConsoleHost.Toml.Number

/-!
Values. Arrays may run over several lines and hold comments; tables in braces stay on one line.
-/

namespace ConsoleHost.Toml

/-- Reads one value from the start of a text. -/
abbrev Reader := List Char → Option (Item × List Char)

/-- A fixed word, and the value it stands for. -/
def word? (word : String) (item : Item) : Reader := fun cs =>
  if word.toList.isPrefixOf cs then some (item, cs.drop word.length) else none

/-- A value that holds no other values. -/
def scalar? : Reader := fun cs =>
  match cs with
  | '"' :: _ => (quotedWith? .basic cs).map fun (text, rest) => (.string (String.ofList text), rest)
  | '\x27' :: _ => (quotedWith? .literal cs).map fun (text, rest) => (.string (String.ofList text), rest)
  | 't' :: _ => word? "true" (.boolean true) cs
  | 'f' :: _ => word? "false" (.boolean false) cs
  | _ =>
    match dateTime? cs with
    | some rest => some (.dateTime, rest)
    | none => number? cs

/-- The rest of an array, up to its closing bracket. A comma may follow the last element. Every element
takes up a character, so the length of the text bounds their number. -/
def elements? (value? : Reader) : Nat → List Char → Option (List Item × List Char)
  | 0, _ => none
  | bound + 1, cs =>
    match skipGaps cs with
    | ']' :: rest => some ([], rest)
    | start => do
      let (item, rest) ← value? start
      match skipGaps rest with
      | ']' :: rest => return ([item], rest)
      | ',' :: rest =>
        let (items, rest) ← elements? value? bound rest
        return (item :: items, rest)
      | _ => none

/-- A key, an equals sign and a value, with the blanks before the value. -/
def assignment? (value? : Reader) (cs : List Char) : Option ((DottedKey × Item) × List Char) := do
  let (key, rest) ← key? cs
  match rest with
  | '=' :: rest =>
    let (item, rest) ← value? (skipBlanks rest)
    return ((key, item), rest)
  | _ => none

/-- The assignments in braces, of which there is at least one, up to the closing brace. No comma may
follow the last of them. -/
def assignments? (value? : Reader) : Nat → List Char → Option (List (DottedKey × Item) × List Char)
  | 0, _ => none
  | bound + 1, cs => do
    let (entry, rest) ← assignment? value? cs
    match skipBlanks rest with
    | '\x7d' :: rest => return ([entry], rest)
    | ',' :: rest =>
      let (entries, rest) ← assignments? value? bound rest
      return (entry :: entries, rest)
    | _ => none

/-- A table in braces, behind the opening brace. -/
def braced? (value? : Reader) (cs : List Char) : Option (Item × List Char) :=
  match skipBlanks cs with
  | '\x7d' :: rest => some (.table .braces [], rest)
  | start => do
    let (entries, rest) ← assignments? value? start.length start
    let table ← Table.ofAssignments? entries
    return (.table .braces table, rest)

/-- A value with at most so many levels of arrays and tables inside one another. -/
def value? : Nat → Reader
  | 0 => scalar?
  | depth + 1 => fun cs =>
    match cs with
    | '[' :: rest =>
      (elements? (value? depth) (rest.length + 1) rest).map fun (items, rest) => (.array items, rest)
    | '\x7b' :: rest => braced? (value? depth) rest
    | _ => scalar? cs

/-- How many levels of values may lie inside one another. -/
def nestingLimit : Nat := 79

end ConsoleHost.Toml
