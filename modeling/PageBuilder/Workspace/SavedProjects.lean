import PageBuilder.Store.Export
import PageBuilder.Store.ProjectStore
import PageBuilder.Workspace.ProjectFile

/-!
The store of a directory: listing, searching, saving, loading, deleting, exporting and importing
projects.
-/

namespace PageBuilder

/-- An operation on the store of a directory. -/
inductive StoreCommand where
  | list
  | search (query : String)
  | stats
  | save (file : String)
  | load (id : String) (output : Option String)
  | delete (id : String)
  | exportTo (id dir : String) (stdout : Bool)
  | importFrom (file : String)

def ProjectRecord.summaryLine (r : ProjectRecord) : String :=
  let tags := if r.tags.isEmpty then "" else " [" ++ joinWith ", " r.tags ++ "]"
  "  " ++ r.id ++ " " ++ r.name ++ " v" ++ toString r.version ++ " · " ++
    toString r.elementCount ++ " elements · updated " ++ r.updatedAt.minuteText ++ tags

/-- A share in percent with one decimal, a half upwards. Of nothing every share is zero. -/
def percentText (share total : Nat) : String :=
  let tenths := if total = 0 then 0 else (share * 2000 + total) / (2 * total)
  toString (tenths / 10) ++ "." ++ toString (tenths % 10) ++ "%"

def StoreStats.textLines (n : StoreStats) : List String :=
  ["Projects:      " ++ toString n.count, "Updated (7d):  " ++ toString n.recent,
    "Space used:    " ++ toString n.totalBytes ++ " / " ++ toString n.byteBudget ++ " bytes (" ++
      percentText n.totalBytes n.byteBudget ++ ")"]

namespace ExportSink

/-- A target among the files. -/
def inFiles (sink : ExportSink FileTree) : ExportSink Console :=
  sink.within Console.files fun files console => { console with files := files }

/-- The printed text as a target. -/
def printed : ExportSink Console :=
  (writer "stdout").within Console.out fun out console => { console with out := out }

end ExportSink

namespace Task

/-- The store of a directory. It is made if there is none. -/
def openStore (env : Environment) (config : SiteConfig) :
    Task (List String × ProjectStore FileBackend) := do
  let unreachable (e : FileError) : Failure := .store (.backend (.file e))
  let dir := env.path config.store.dir
  makeDirectories unreachable dir
  let place ← orFail unreachable ((← files).locate dir)
  let nameLimit := min longestName (longestPath - (joinPath dir "").utf8ByteSize)
  let backend : FileBackend := ⟨(← files).entriesIn place, none, some nameLimit⟩
  return (place, ⟨backend, config.store.limits, env.packing⟩)

/-- Puts the files of a store back. -/
def closeStore (place : List String) (s : ProjectStore FileBackend) : Task Unit :=
  modify fun c => { c with files := c.files.withEntriesIn place s.backend.files }

def orStoreError {α : Type} : Except StoreError α → Task α
  | .ok a => pure a
  | .error e => throw (.store e)

def storedProject (env : Environment) (s : ProjectStore FileBackend) (id : String) :
    Task ProjectRecord := do
  match ← orStoreError (s.load env.now id) with
  | some r => return r
  | none => throw (.unknownProject id)

/-- Saves a record in an open store. -/
def saveInto (env : Environment) (place : List String) (s : ProjectStore FileBackend)
    (r : ProjectRecord) : Task ProjectRecord := do
  let (result, s) := s.save env.now r
  closeStore place s
  orStoreError result

def sayProjects (records : List ProjectRecord) : Task Unit :=
  records.forM fun r => say r.summaryLine

/-- The targets of an export: a directory with the printed text as the last resort, or only that. -/
def exportSinks (env : Environment) (dir : String) (stdout : Bool) : List (ExportSink Console) :=
  if stdout then [.printed]
  else (ExportSink.directory (env.path dir)).map ExportSink.inFiles ++ [.printed]

/-- Exports a record to the first target that will do, and tells which one it was. -/
def exportRecord (env : Environment) (dir : String) (stdout : Bool) (r : ProjectRecord) :
    Task Unit := do
  let (result, console) := exportProject (exportSinks env dir stdout) r env.now (← get)
  set console
  let delivery ← orStoreError result
  if !stdout then say ("✓ Exported via " ++ delivery.sink ++ " → " ++ delivery.location)

/-- Runs an operation on the store of the directory. -/
def store (env : Environment) (c : StoreCommand) : Task Unit := do
  let config ← config env
  let (place, s) ← openStore env config
  match c with
  | .list =>
    let records ← orStoreError (s.list env.now)
    if records.isEmpty then say "No saved projects"
    sayProjects records
  | .search query =>
    let records ← orStoreError (s.search env.now query)
    say ("Found " ++ toString records.length ++ " projects matching " ++ quoted query)
    sayProjects records
  | .stats =>
    let stats ← orStoreError (s.stats env.now)
    stats.textLines.forM say
  | .save file =>
    let r ← readProject env (env.path file)
    let saved ← saveInto env place s r
    say ("✓ Saved " ++ saved.name ++ " as " ++ saved.id ++ " (v" ++ toString saved.version ++ ")")
  | .load id output =>
    let r ← storedProject env s id
    let target := env.path (output.getD (id ++ projectEnding))
    writeProject target r
    say ("✓ Wrote " ++ target)
  | .delete id =>
    let (found, s) ← orStoreError (s.delete id)
    closeStore place s
    if found then say ("✓ Deleted " ++ id) else say ("⚠️ No saved project with id " ++ id)
  | .exportTo id dir stdout =>
    let r ← storedProject env s id
    exportRecord env dir stdout r
  | .importFrom file =>
    let text ← readText .file (env.path file)
    match importProject env.now text with
    | .error e => throw (.store (.invalidImport e))
    | .ok r =>
      let saved ← saveInto env place s r
      say ("✓ Imported " ++ saved.name ++ " as " ++ saved.id)

end Task

end PageBuilder
