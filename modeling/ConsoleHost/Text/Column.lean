/-!
Text in columns of a fixed width.
-/

namespace ConsoleHost.Text

/-- A text with blanks behind it, up to a width. A longer text stays as it is. -/
def padded (width : Nat) (s : String) : String :=
  s ++ String.ofList (List.replicate (width - s.length) ' ')

def ofLines (lines : List String) : String :=
  String.join (lines.map (· ++ "\n"))

end ConsoleHost.Text
