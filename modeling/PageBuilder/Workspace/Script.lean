import PageBuilder.Editor.Session
import PageBuilder.Json.Printer
import PageBuilder.Json.Reader
import PageBuilder.Machine

/-!
Scripts of editor commands: their payloads, and running them on a project's sections.
-/

namespace PageBuilder

/-- A line of a script carries no payload. -/
def isScriptComment (line : String) : Bool := line.isEmpty || startsWith line "//"

/-- The payloads of a script: the items of a JSON list, or one for each line. Blank lines and lines
that start with two slashes carry none. -/
def scriptPayloads? (script : String) : Option (List String) :=
  let script := trim script
  if startsWith script "[" then
    ((Json.parse? script).bind Json.items?).map fun items => items.map Json.compact
  else some (((lines script).map trim).filter fun line => !isScriptComment line)

/-- Runs payloads one after the other, each at its time, and collects how each one went. -/
def Editor.runPayloads : Editor → List (Int × String) → List (Except EditError Outcome) × Editor :=
  runMachine fun e payload => e.stepPayload payload.1 payload.2

/-- Payloads with the times of the steps that they are, where loading a project is the step before
the first one. -/
def timedPayloads (stepTime : Nat → Int) (payloads : List String) : List (Int × String) :=
  payloads.mapIdx fun i payload => (stepTime (i + 1), payload)

/-- Opens sections in a new session and runs payloads on them. -/
def editSections (config : EditorConfig) (key : String) (stepTime : Nat → Int)
    (sections : Sections) (payloads : List String) :
    Except EditError (List (Except EditError Outcome) × Editor) := do
  let (_, e) ← (Editor.new config key).dispatch (stepTime 0) (.loadProject sections none)
  return e.runPayloads (timedPayloads stepTime payloads)

/-- How often payloads of a script went which way. -/
structure ScriptSummary where
  applied : Nat
  unchanged : Nat
  debounced : Nat
  rejected : Nat
deriving DecidableEq, Repr

namespace ScriptSummary

/-- The summary of the results of a script. -/
def ofResults (results : List (Except EditError Outcome)) : ScriptSummary :=
  { applied := results.countP (· matches .ok .applied)
    unchanged := results.countP (· matches .ok .unchanged)
    debounced := results.countP (· matches .ok .debounced)
    rejected := results.countP (· matches .error _) }

def text (s : ScriptSummary) : String :=
  toString s.applied ++ " applied, " ++ toString s.unchanged ++ " unchanged, " ++
    toString s.debounced ++ " ignored, " ++ toString s.rejected ++ " rejected"

end ScriptSummary

end PageBuilder
