import PageBuilder.Editor.Session
import PageBuilder.Files.Directories
import PageBuilder.Html.Context
import PageBuilder.Store.Error
import PageBuilder.Workspace.Config

/-!
What a command of the program sees and leaves behind: the files, and the texts that it printed. A
command that fails keeps what it did up to then.
-/

namespace PageBuilder

/-- Where and when a command runs, and what it can read from its input. -/
structure Environment where
  workDir : String
  tempDir : String
  input : String
  now : Instant
  /-- The key of editing sessions whose settings name none. -/
  sessionKey : String
  /-- The time in milliseconds at which an editing session runs its first, second, … step. -/
  stepTime : Nat → Int
  /-- How the records of a store are packed. -/
  packing : Packing

/-- A path as the command understands it. -/
def Environment.path (env : Environment) (path : String) : String := joinPath env.workDir path

/-- The files and the printed texts. -/
structure Console where
  files : FileTree
  out : String
  err : String

/-- What a command was doing with a file. -/
inductive FileUse where
  | reading
  | writing
deriving DecidableEq, Repr

def FileUse.word : FileUse → String
  | .reading => "reading"
  | .writing => "writing"

/-- Why a command fails. -/
inductive Failure where
  | file (e : FileError)
  | fileAt (use : FileUse) (path : String) (e : FileError)
  /-- A file holds no project. -/
  | noProjectAt (path : String) (e : ImportError)
  | badConfig
  | badScript
  | noSuchPath (path : String)
  | notProjectFile
  | compile (e : CompileError)
  | someFailed (count : Nat)
  | noCommands (source : String)
  | edit (e : EditError)
  | store (e : StoreError)
  | unknownProject (id : String)

namespace Failure

/-- The wording of a failure and of what caused it, outermost first. -/
def messages : Failure → List String
  | .file e => [e.message]
  | .fileAt use path e => [use.word ++ " " ++ path, e.message]
  | .noProjectAt path e => ("parsing " ++ path) :: (StoreError.invalidImport e).messages
  | .badConfig => ["malformed settings"]
  | .badScript => ["malformed command list"]
  | .noSuchPath path => ["Path does not exist: " ++ quoted path]
  | .notProjectFile => ["not a project file"]
  | .compile e => [e.message]
  | .someFailed count => [toString count ++ " projects failed to compile"]
  | .noCommands source => ["No commands found in " ++ source]
  | .edit e => [e.message]
  | .store e => e.messages
  | .unknownProject id => ["No saved project with id " ++ id]

/-- The outermost wording. -/
def headline (e : Failure) : String := e.messages.head?.getD ""

/-- The whole wording in one line. -/
def chain (e : Failure) : String := joinWith ": " e.messages

end Failure

/-- A step of a command: it changes the console, and has a result or fails. -/
abbrev Task := ExceptT Failure (StateM Console)

namespace Task

def print (s : String) : Task Unit := modify fun c => { c with out := c.out ++ s }

def say (line : String) : Task Unit := print (line ++ "\n")

/-- Prints a line about something that went wrong. -/
def warn (line : String) : Task Unit := modify fun c => { c with err := c.err ++ line ++ "\n" }

def files : Task FileTree := do return (← get).files

/-- The result of a file operation. -/
def orFail {α : Type} (wrap : FileError → Failure) : Except FileError α → Task α
  | .ok a => pure a
  | .error e => throw (wrap e)

def readText (wrap : FileError → Failure) (path : String) : Task String := do
  orFail wrap ((← files).readText path)

def setFiles (t : FileTree) : Task Unit := modify fun c => { c with files := t }

def writeText (wrap : FileError → Failure) (path s : String) : Task Unit := do
  setFiles (← orFail wrap ((← files).write path (.text s)))

/-- Makes a directory and all that are missing on the way to it. If one of them cannot be made, the
ones before it stay. -/
def makeDirectories (wrap : FileError → Failure) (path : String) : Task Unit := do
  let (result, made) := (← files).makeDirectories path
  setFiles made
  orFail wrap result

/-- The result of a step, or the failure it ends with. -/
def attempt {α : Type} (t : Task α) : Task (Except Failure α) := fun console =>
  let (result, console) := t console
  (.ok result, console)

/-- The settings of the directory; without a settings file, the usual ones. -/
def config (env : Environment) : Task SiteConfig := do
  let path := env.path configFileName
  if (← files).hasPath path then
    match SiteConfig.ofText? (← readText .file path) with
    | some c => return c
    | none => throw .badConfig
  else return {}

end Task

end PageBuilder
