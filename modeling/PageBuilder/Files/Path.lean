import PageBuilder.Files.Entry
import PageBuilder.Text.Cut

/-!
Paths as texts, with slashes between names. A path keeps the way it was written, also when it goes
through `.` and `..`; only the names count when it is followed.
-/

namespace PageBuilder

/-- A path below another one. A path that starts at the root replaces it. -/
def joinPath (base path : String) : String :=
  if startsWith path "/" || base.isEmpty then path
  else if endsWith base "/" then base ++ path
  else base ++ "/" ++ path

/-- The most bytes that a name has. -/
def longestName : Nat := 255

/-- The most bytes that a path has. -/
def longestPath : Nat := 4095

/-- A path that can be followed at all, wherever it leads. -/
def checkPath (path : String) : Except FileError Unit :=
  if path.toList.contains '\x00' then .error .nulInName
  else if longestPath < path.utf8ByteSize then .error .nameTooLong
  else .ok ()

/-- The steps of a path, in order. -/
def pathSteps (path : String) : List String := (splitOnChar '/' path.toList).map String.ofList

/-- A step that leads nowhere. -/
def isIdleStep (step : String) : Bool := step.isEmpty || step == "."

/-- The last name of a path, if it ends with one. -/
def lastName? (path : String) : Option String :=
  ((pathSteps path).filter fun step => !isIdleStep step).getLast?.filter (· != "..")

/-- Lists of names in order, name by name. -/
def namesLe : List String → List String → Bool
  | [], _ => true
  | _ :: _, [] => false
  | a :: as, b :: bs => if a = b then namesLe as bs else a < b

end PageBuilder
