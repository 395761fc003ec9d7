import PageBuilder.Workspace.ProjectFile
import PageBuilder.Workspace.Script

/-!
Running a script of editor commands on a project file.
-/

namespace PageBuilder

/-- The script to run, and where its result goes. -/
structure ApplyArguments where
  project : String
  /-- A file with commands, or a dash for the input. -/
  commands : String
  /-- The file for the result; the project file when absent. -/
  output : Option String := none
  /-- Writes nothing. -/
  dryRun : Bool := false
  /-- Runs equal adds that come at once, too. -/
  noDebounce : Bool := false

namespace Task

def scriptText (env : Environment) (source : String) : Task String :=
  if source = "-" then pure env.input else readText .file (env.path source)

def reportResult (number : Nat) (result : Except EditError Outcome) : Task Unit :=
  let step := "#" ++ toString number
  match result with
  | .ok .applied => say ("  ✓ " ++ step ++ " applied")
  | .ok .unchanged => say ("  · " ++ step ++ " no change")
  | .ok .debounced => say ("  · " ++ step ++ " duplicate add ignored")
  | .error e => warn ("  ✗ " ++ step ++ " " ++ e.message)

/-- Tells how payloads went, from a number on. -/
def reportResults (number : Nat) : List (Except EditError Outcome) → Task Unit
  | [] => return
  | result :: rest => do
    reportResult number result
    reportResults (number + 1) rest

/-- Settings of the session that a script runs in. -/
def scriptConfig (config : EditorConfig) (noDebounce : Bool) : EditorConfig :=
  if noDebounce then { config with addDebounceMs := 0 } else config

/-- Runs a script on a project file and writes the result. -/
def apply (env : Environment) (args : ApplyArguments) : Task Unit := do
  let config ← config env
  let projectPath := env.path args.project
  let r ← readProject env projectPath
  let script ← scriptText env args.commands
  let some payloads := scriptPayloads? script | throw .badScript
  if payloads.isEmpty then throw (.noCommands args.commands)
  let editing := scriptConfig config.editor args.noDebounce
  let key := editing.sessionKey.getD env.sessionKey
  match editSections editing key env.stepTime r.sections payloads with
  | .error e => throw (.edit e)
  | .ok (results, edited) =>
    say ("✏️ " ++ toString payloads.length ++ " commands to " ++ r.name)
    reportResults 1 results
    say ""
    say (ScriptSummary.ofResults results).text
    if args.dryRun then say "(dry run, nothing written)"
    else
      let target := (args.output.map env.path).getD projectPath
      writeProject target { r with sections := edited.state.sections }
      say ("✅ Wrote " ++ target)

end Task

end PageBuilder
