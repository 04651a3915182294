/-!
Measures and views of Unicode text that the connect message needs: the number of UTF-16 units, the
part before the first NUL, and equality that ignores the case of ASCII letters.
-/

namespace ConsoleHost.Text

/-- The number of UTF-16 units of one character: a supplementary character takes two. -/
def unitsOf (c : Char) : Nat :=
  if c.toNat < 0x10000 then 1 else 2

/-- The length of a text in UTF-16 units. -/
def units16 (s : String) : Nat :=
  s.toList.foldr (fun c n => unitsOf c + n) 0

/-- The longest part of a text, from its start, that holds no NUL. -/
def clipAtNul (s : String) : String :=
  String.ofList (s.toList.takeWhile (· ≠ '\x00'))

/-- Two texts agree when the ASCII letters of both are put into lower case. Letters outside ASCII
have to be the same. -/
def sameIgnoringAsciiCase (s t : String) : Bool :=
  s.toList.map Char.toLower == t.toList.map Char.toLower

theorem sameIgnoringAsciiCase_self (s : String) : sameIgnoringAsciiCase s s = true := by
  simp [sameIgnoringAsciiCase]

theorem toList_clipAtNul (s : String) :
    (clipAtNul s).toList = s.toList.takeWhile (· ≠ '\x00') := by
  simp [clipAtNul]

/-- Clipping a second time removes nothing more. -/
theorem clipAtNul_clipAtNul (s : String) : clipAtNul (clipAtNul s) = clipAtNul s := by
  have again (cs : List Char) :
      (cs.takeWhile (· ≠ '\x00')).takeWhile (· ≠ '\x00') = cs.takeWhile (· ≠ '\x00') := by
    induction cs with
    | nil => rfl
    | cons c cs ih =>
        by_cases h : c = '\x00'
        · simp [h]
        · simpa [h] using ih
  simp only [clipAtNul, String.toList_ofList, again]

end ConsoleHost.Text
