/-!
Where the program keeps its files: in a directory of its own inside the home directory of the user. With
no home directory there are no settings, and the log goes to the current directory.
-/

namespace ConsoleHost

structure Places where
  /-- The directory of the program. -/
  directory : Option String
  settings : Option String
  log : String
  deriving DecidableEq

namespace Places

/-- The path of a name inside a directory. The empty path is the current directory. -/
def inside (directory name : String) : String :=
  if directory = "" ∨ directory.toList.getLast? = some '/' then directory ++ name
  else directory ++ "/" ++ name

/-- The places for a user with this profile directory and this home directory. The profile directory is
preferred. -/
def ofUser (profile home : Option String) : Places :=
  match profile.or home with
  | none => ⟨none, none, "consrv.log"⟩
  | some base =>
    let directory := inside base ".consrv"
    ⟨some directory, some (inside directory "config.toml"), inside directory "consrv.log"⟩

end Places

end ConsoleHost
