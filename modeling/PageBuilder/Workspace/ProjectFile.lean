import PageBuilder.Store.Import
import PageBuilder.Workspace.Console

/-!
Project files: their names, their contents and finding them in a directory.
-/

namespace PageBuilder

def projectEnding : String := ".page.json"

/-- A path has the ending of project files. -/
def isProjectPath (path : String) : Bool :=
  ((lastName? path).map fun name => endsWith name projectEnding).getD false

/-- A path has the ending of JSON files. -/
def isJsonPath (path : String) : Bool :=
  match (lastName? path).bind fun name => beforeBack? ".json".toList name.toList with
  | some stem => !stem.isEmpty
  | none => false

/-- The name of a project file without its ending. -/
def projectStem (path : String) : String :=
  let name := (lastName? path).getD "project"
  match beforeBack? projectEnding.toList name.toList with
  | some stem => String.ofList stem
  | none => name

/-- The project files below a directory, each by the names that lead to it, in the order of these
names. -/
def projectFilesBelow (t : FileTree) (place : List String) : List (List String) :=
  ((t.filesBelow place).map Prod.fst).filter fun names =>
    (names.getLast?.map isProjectPath).getD false

def ProjectRecord.fileText (r : ProjectRecord) : String := r.stripped.toJson.pretty

namespace Task

def readProject (env : Environment) (path : String) : Task ProjectRecord := do
  let text ← readText (.fileAt .reading path) path
  match importProject env.now text with
  | .ok r => return r
  | .error e => throw (.noProjectAt path e)

def writeProject (path : String) (r : ProjectRecord) : Task Unit :=
  writeText (.fileAt .writing path) path r.fileText

end Task

end PageBuilder
