/-!
What a TOML document may hold between its values: spaces and tabs, ends of lines, and comments.
-/

namespace ConsoleHost.Toml

/-- The blanks within a line: spaces and tabs. -/
def isBlank (c : Char) : Bool := c = ' ' || c = '\t'

/-- The characters that comments and quoted text may hold: everything but the ASCII control characters,
of which only the tab is allowed. -/
def isPlain (c : Char) : Bool := c = '\t' || (0x20 ≤ c.toNat && c.toNat ≠ 0x7F)

def skipBlanks (cs : List Char) : List Char := cs.dropWhile isBlank

theorem length_skipBlanks_le (cs : List Char) : (skipBlanks cs).length ≤ cs.length :=
  (List.dropWhile_suffix isBlank).length_le

/-- Take an end of line: a line feed, which a carriage return may precede. -/
def newline? : List Char → Option (List Char)
  | '\n' :: rest => some rest
  | '\r' :: '\n' :: rest => some rest
  | _ => none

/-- Take a comment, if there is one, up to the end of its line. -/
def skipComment : List Char → List Char
  | '#' :: rest => rest.dropWhile isPlain
  | cs => cs

/-- Finish a line: nothing but blanks and a comment may follow, up to the end of the line or of the
document. -/
def finishLine? (cs : List Char) : Option (List Char) :=
  match skipComment (skipBlanks cs) with
  | [] => some []
  | rest => newline? rest

def skipBlankLines : List Char → List Char
  | ' ' :: rest => skipBlankLines rest
  | '\t' :: rest => skipBlankLines rest
  | '\n' :: rest => skipBlankLines rest
  | '\r' :: '\n' :: rest => skipBlankLines rest
  | cs => cs

/-- An end of line takes up at least one character. -/
theorem length_lt_of_newline? {cs rest : List Char} (h : newline? cs = some rest) :
    rest.length < cs.length := by
  unfold newline? at h
  split at h <;> cases h <;> simp only [List.length_cons] <;> omega

theorem length_skipBlankLines_le (cs : List Char) : (skipBlankLines cs).length ≤ cs.length := by
  fun_induction skipBlankLines cs with
  | case1 rest ih => exact Nat.le_succ_of_le ih
  | case2 rest ih => exact Nat.le_succ_of_le ih
  | case3 rest ih => exact Nat.le_succ_of_le ih
  | case4 rest ih => exact Nat.le_succ_of_le (Nat.le_succ_of_le ih)
  | case5 => exact Nat.le_refl _

/-- Skip blanks, ends of lines and comments. -/
def skipGaps (cs : List Char) : List Char :=
  match _front : skipBlankLines cs with
  | '#' :: rest =>
    match _end : newline? (rest.dropWhile isPlain) with
    | some next => skipGaps next
    | none => '#' :: rest
  | rest => rest
termination_by cs.length
decreasing_by
  have line := length_lt_of_newline? _end
  have comment := (List.dropWhile_suffix isPlain : rest.dropWhile isPlain <:+ rest).length_le
  have before := length_skipBlankLines_le cs
  rw [_front, List.length_cons] at before
  omega

end ConsoleHost.Toml
