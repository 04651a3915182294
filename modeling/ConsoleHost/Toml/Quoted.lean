import ConsoleHost.Text.Hex
import ConsoleHost.Toml.Blank

/-!
Quoted text in its four forms: between quotation marks, where a backslash starts an escape, or between
apostrophes, where it does not; on one line between single marks, or over several lines between triple
ones.
-/

namespace ConsoleHost.Toml

/-- What encloses a text, and whether a backslash means something inside. -/
structure Quoting where
  mark : Char
  escapes : Bool
  deriving DecidableEq

namespace Quoting

def basic : Quoting := ⟨'"', true⟩
def literal : Quoting := ⟨'\x27', false⟩

end Quoting

/-- The character with a code point of exactly so many hexadecimal digits. Surrogates are no
characters. -/
def codePoint? (count : Nat) (cs : List Char) : Option (Char × List Char) := do
  let digits ← (cs.take count).mapM Hex.digitValue?
  let code := digits.foldl (fun n d => 16 * n + d) 0
  if digits.length = count ∧ code.isValidChar then some (Char.ofNat code, cs.drop count) else none

/-- The character that an escape stands for, read behind its backslash. -/
def escape? : List Char → Option (Char × List Char)
  | 'b' :: rest => some ('\x08', rest)
  | 't' :: rest => some ('\t', rest)
  | 'n' :: rest => some ('\n', rest)
  | 'f' :: rest => some ('\x0c', rest)
  | 'r' :: rest => some ('\r', rest)
  | '"' :: rest => some ('"', rest)
  | '\\' :: rest => some ('\\', rest)
  | 'u' :: rest => codePoint? 4 rest
  | 'U' :: rest => codePoint? 8 rest
  | _ => none

theorem length_le_of_codePoint? {count : Nat} {cs rest : List Char} {c : Char}
    (h : codePoint? count cs = some (c, rest)) : rest.length ≤ cs.length := by
  simp only [codePoint?, Option.bind_eq_bind, Option.bind_eq_some_iff] at h
  obtain ⟨digits, _, h⟩ := h
  split at h <;> cases h
  simp

/-- An escape takes up at least one character besides its backslash. -/
theorem length_lt_of_escape? {cs rest : List Char} {c : Char} (h : escape? cs = some (c, rest)) :
    rest.length < cs.length := by
  unfold escape? at h
  split at h
  case h_8 => exact Nat.lt_succ_of_le (length_le_of_codePoint? h)
  case h_9 => exact Nat.lt_succ_of_le (length_le_of_codePoint? h)
  all_goals cases h
  all_goals exact Nat.lt_succ_self _

/-- Text on one line, read behind its opening mark. -/
def singleLine? (q : Quoting) : List Char → Option (List Char × List Char)
  | [] => none
  | c :: rest =>
    if c = q.mark then some ([], rest)
    else if q.escapes ∧ c = '\\' then
      match _read : escape? rest with
      | some (e, after) => (singleLine? q after).map fun (text, rest) => (e :: text, rest)
      | none => none
    else if isPlain c then (singleLine? q rest).map fun (text, rest) => (c :: text, rest)
    else none
termination_by cs => cs.length
decreasing_by
  · exact Nat.lt_succ_of_lt (length_lt_of_escape? _read)
  · exact Nat.lt_succ_self _

/-- Text over several lines, read behind its opening marks. Every end of line counts as a line feed. A
backslash at the end of a line joins it to the next text, and up to two marks may stand right before the
closing three. -/
def multiLine? (q : Quoting) (cs : List Char) : Option (List Char × List Char) :=
  let marks := (cs.takeWhile (· = q.mark)).length
  if 3 ≤ marks then some (List.replicate (min marks 5 - 3) q.mark, cs.drop (min marks 5))
  else
    match _line : newline? cs with
    | some rest => (multiLine? q rest).map fun (text, rest) => ('\n' :: text, rest)
    | none =>
      match cs with
      | [] => none
      | c :: rest =>
        if q.escapes ∧ c = '\\' then
          match _joined : newline? (skipBlanks rest) with
          | some next => multiLine? q (skipBlankLines next)
          | none =>
            match _read : escape? rest with
            | some (e, after) => (multiLine? q after).map fun (text, rest) => (e :: text, rest)
            | none => none
        else if isPlain c then (multiLine? q rest).map fun (text, rest) => (c :: text, rest)
        else none
termination_by cs.length
decreasing_by
  · exact length_lt_of_newline? _line
  · have blanks := length_skipBlanks_le rest
    have line := length_lt_of_newline? _joined
    have next := length_skipBlankLines_le next
    simp only [List.length_cons]
    omega
  · exact Nat.lt_succ_of_lt (length_lt_of_escape? _read)
  · exact Nat.lt_succ_self _

/-- Quoted text that starts with this kind of mark. An end of line right behind three opening marks does
not count. -/
def quotedWith? (q : Quoting) (cs : List Char) : Option (List Char × List Char) :=
  if cs.take 3 = [q.mark, q.mark, q.mark] then
    let rest := cs.drop 3
    multiLine? q ((newline? rest).getD rest)
  else if cs.take 1 = [q.mark] then singleLine? q (cs.drop 1)
  else none

end ConsoleHost.Toml
