import PageBuilder.Workspace.Arguments
import Std.Time.DateTime.Timestamp

/-!
The program: it takes its request from the command line, reads the files that the request has to do
with, and writes back what it changed.
-/

namespace PageBuilder

/-- The tree with what the entries of a directory hold. What cannot be read is left out. -/
partial def loadEntries (t : FileTree) (place : List String) (entries : Array IO.FS.DirEntry) :
    IO FileTree := do
  let mut t := t
  for entry in entries do
    let inner := place ++ [entry.fileName]
    try
      if ← entry.path.isDir then
        t ← loadEntries (t.set inner .directory) inner (← entry.path.readDir)
      else t := t.set inner (.file ⟨← IO.FS.readBinFile entry.path⟩)
    catch _ => pure ()
  return t

/-- The tree with what stands at a list of names from the root, and below it if it is `whole`. -/
def loadPlace (whole : Bool) (t : FileTree) (place : List String) : IO FileTree := do
  let path := (← IO.currentDir) / FileTree.keyOf place
  if ← path.isDir then
    let t := t.set place .directory
    if whole then loadEntries t place (← path.readDir) else return t
  else if ← path.pathExists then
    return t.set place (.file ⟨← IO.FS.readBinFile path⟩)
  else return t

/-- The tree with what stands on the way along a path, and below its end if it is `whole`. -/
def loadPath (whole : Bool) (t : FileTree) (path : String) : IO FileTree := do
  let mut t := t
  let mut place : List String := []
  for step in pathSteps path do
    if !isIdleStep step then
      place := if step = ".." then place.dropLast else place ++ [step]
      t ← loadPlace false t place
  if whole && !place.isEmpty then loadPlace true t place else return t

/-- Writes back what is new or changed in a tree, and removes what is gone. -/
def saveTree (before after : FileTree) : IO Unit := do
  for (path, entry) in after.entries.entries do
    if before.entries.get? path != some entry then
      match entry with
      | .directory => IO.FS.createDirAll path
      | .file contents => IO.FS.writeBinFile path contents.bytes
  for (path, _) in before.entries.entries do
    if !after.entries.contains path then IO.FS.removeFile path

/-- Reads the rest of the input, if the request asks for it. -/
def readInput (i : Invocation) : IO String :=
  match i with
  | .apply args => if args.commands = "-" then do (← IO.getStdin).readToEnd else pure ""
  | _ => pure ""

/-- The files that a request has to do with. -/
def loadFiles (i : Invocation) (env : Environment) : IO FileTree := do
  let mut t ← loadPath false .empty env.tempDir
  t ← loadPath false t (env.path configFileName)
  let config := match Task.config env ⟨t, "", ""⟩ with
    | (.ok config, _) => config
    | (.error _, _) => {}
  for path in i.targets config do
    t ← loadPath false t (env.path path)
  for path in i.sources config do
    t ← loadPath true t (env.path path)
  return t

/-- Runs a request in the working directory, and gives the exit code. -/
def serveRequest (i : Invocation) : IO UInt32 := do
  let nanos := (← Std.Time.Timestamp.now).toNanosecondsSinceUnixEpoch.val
  let env : Environment :=
    { workDir := (← IO.currentDir).toString
      tempDir := (← IO.getEnv "TMPDIR").getD "/tmp"
      input := ← readInput i
      now := Instant.ofNanos nanos
      sessionKey := "session-" ++ toString nanos
      -- the steps of a script are run at once
      stepTime := fun _ => 0
      packing := Frame.packing }
  let files ← loadFiles i env
  let (failure, console) := i.run env files
  saveTree files console.files
  IO.print console.out
  IO.eprint console.err
  match failure with
  | none => return 0
  | some e =>
    IO.eprintln ("\nError: " ++ e.chain ++ "\n")
    return 1

end PageBuilder

/-- Runs the request on the command line. -/
def main (args : List String) : IO UInt32 := do
  match PageBuilder.Invocation.ofWords? args with
  | some i => PageBuilder.serveRequest i
  | none =>
    IO.eprintln PageBuilder.Invocation.usage
    return 2
