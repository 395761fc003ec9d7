import PageBuilder.Json.Fields

/-!
Settings of an editing session.
-/

namespace PageBuilder

/-- Settings of an editing session. -/
structure EditorConfig where
  /-- The largest number of undo levels; zero sets no limit. -/
  maxHistory : Nat := 100
  /-- Milliseconds in which an equal add counts as a duplicate; zero turns the check off. -/
  addDebounceMs : Nat := 300
  canvasWidth : Float := 1450.0
  canvasHeight : Float := 900.0
  /-- The key that the session's ids are derived from. -/
  sessionKey : Option String := none

namespace EditorConfig

/-- Settings as JSON; an absent key is left out. -/
def toJson (c : EditorConfig) : Json :=
  .obj ([("maxHistory", .nat c.maxHistory), ("addDebounceMs", .nat c.addDebounceMs),
    ("canvasWidth", .ofFloat c.canvasWidth), ("canvasHeight", .ofFloat c.canvasHeight)] ++
    (match c.sessionKey with
    | some key => [("sessionKey", .str key)]
    | none => []))

/-- The names of the settings, in order. -/
def fieldNames : List String :=
  ["maxHistory", "addDebounceMs", "canvasWidth", "canvasHeight", "sessionKey"]

/-- The settings that a JSON record describes; what is missing has its usual value. -/
def ofJson? (j : Json) : Option EditorConfig := do
  let usual : EditorConfig := {}
  let f ← j.fields? fieldNames
  return {
    maxHistory := ← f.defaulted "maxHistory" usual.maxHistory Json.nat?
    addDebounceMs := ← f.defaulted "addDebounceMs" usual.addDebounceMs Json.nat?
    canvasWidth := ← f.defaulted "canvasWidth" usual.canvasWidth Json.float?
    canvasHeight := ← f.defaulted "canvasHeight" usual.canvasHeight Json.float?
    sessionKey := ← f.optionalEnd "sessionKey" Json.str? }

end EditorConfig

end PageBuilder
