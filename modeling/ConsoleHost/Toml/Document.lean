import ConsoleHost.Toml.Value

/-!
Documents. `statements?` reads the lines of a document, and `Draft.add?` says what each of them does to
the tables before it. `parse?` answers nothing if any line is malformed or goes against an earlier one.
-/

namespace ConsoleHost.Toml

inductive Statement where
  | assignment (key : DottedKey) (item : Item)
  /-- A header in single brackets: it opens a table. -/
  | header (key : DottedKey)
  /-- A header in double brackets: it opens one more table under the same key. -/
  | repeatedHeader (key : DottedKey)

structure Draft where
  root : Table
  /-- The keys of the header in force. -/
  keys : List String

namespace Draft

def empty : Draft := ⟨[], []⟩

def add? (d : Draft) : Statement → Option Draft
  | .assignment key item =>
    (d.root.changeAt? .header (fun _ t => t.assign? key item) d.keys .header).map fun root =>
      { d with root := root }
  | .header key =>
    (d.root.openTable? key).map fun root => ⟨root, key.front ++ [key.last]⟩
  | .repeatedHeader key =>
    (d.root.openElement? key).map fun root => ⟨root, key.front ++ [key.last]⟩

end Draft

def Table.ofStatements? (statements : List Statement) : Option Table :=
  (statements.foldlM Draft.add? .empty).map Draft.root

/-- The line that starts here, which is neither blank nor a comment. -/
def statement? (cs : List Char) : Option (Statement × List Char) :=
  match cs with
  | '[' :: '[' :: rest => do
    let (key, rest) ← key? rest
    match rest with
    | ']' :: ']' :: rest => return (.repeatedHeader key, rest)
    | _ => none
  | '[' :: rest => do
    let (key, rest) ← key? rest
    match rest with
    | ']' :: rest => return (.header key, rest)
    | _ => none
  | _ => do
    let ((key, item), rest) ← assignment? (value? nestingLimit) cs
    return (.assignment key item, rest)

/-- The lines of a document. Each takes up a character, so the length of the text bounds their
number. -/
def statements? : Nat → List Char → Option (List Statement)
  | 0, _ => none
  | bound + 1, cs =>
    let start := skipBlanks cs
    match start with
    | [] => some []
    | '#' :: _ => (finishLine? start).bind (statements? bound)
    | '\n' :: _ | '\r' :: _ => (newline? start).bind (statements? bound)
    | _ => do
      let (statement, rest) ← statement? start
      let rest ← finishLine? rest
      let statements ← statements? bound rest
      return statement :: statements

/-- Read a document. A byte-order mark at its start does not count. -/
def parse? (text : String) : Option Table :=
  let cs :=
    match text.toList with
    | '\uFEFF' :: rest => rest
    | cs => cs
  (statements? (cs.length + 1) cs).bind Table.ofStatements?

end ConsoleHost.Toml
