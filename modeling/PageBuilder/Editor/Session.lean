import PageBuilder.Editor.AddGuard
import PageBuilder.Editor.Command
import PageBuilder.Editor.Config
import PageBuilder.Editor.History
import PageBuilder.Editor.State

/-!
An editing session. A command gives an outcome or an error, and the next editor in both cases. A
change of the document records the state before it; undoing and redoing exchange whole states.
-/

namespace PageBuilder

/-- Why a command is refused. -/
inductive EditError where
  | malformedPayload
  | invalidZoom (zoom : Float)
  | invalidCanvasSize (width height : Float)
  | cannotRemoveHome (id : String)
  | emptyProject

def EditError.message : EditError → String
  | .malformedPayload => "Malformed command payload"
  | .invalidZoom zoom => "Invalid zoom level: " ++ plainNumber zoom
  | .invalidCanvasSize width height =>
    "Invalid canvas size: " ++ plainNumber width ++ "x" ++ plainNumber height
  | .cannotRemoveHome id => "Cannot remove the home section: " ++ id
  | .emptyProject => "Project has no sections"

/-- A document under edit, its history, the source of its ids and the guard against double adds. -/
structure Editor where
  state : EditorState
  history : History EditorState
  ids : IdSource
  guard : AddGuard

/-- The first of `base`, `base-2`, `base-3`, … that is not taken. One of the first
`taken.length + 1` numbered ones is always free. -/
def freeSlug (taken : List String) (base : String) : String :=
  if taken.contains base then
    let numbered := (List.range (taken.length + 1)).map fun n => base ++ "-" ++ toString (n + 2)
    (numbered.find? fun slug => !taken.contains slug).getD base
  else base

namespace Editor

/-- A session with the settings of `config` and ids from `key`. -/
def new (config : EditorConfig) (key : String) : Editor :=
  { state := .new ⟨config.canvasWidth, config.canvasHeight⟩
    history := .new config.maxHistory
    ids := .ofKey key
    guard := .new config.addDebounceMs }

def minZoom : Float := 0.1

def maxZoom : Float := 4.0

/-- A zoom brought into the range of zooms. -/
def clampZoom (zoom : Float) : Float :=
  if zoom < minZoom then minZoom else if maxZoom < zoom then maxZoom else zoom

/-- Replaces the state and records the one before. -/
def commit (e : Editor) (label : String) (next : EditorState) : Outcome × Editor :=
  (.applied, { e with state := next, history := e.history.push e.state label })

/-- Replaces the state and records nothing. -/
def amend (e : Editor) (next : EditorState) : Outcome × Editor :=
  (.applied, { e with state := next })

/-- Replaces the active forest, if there is a new one. -/
def commitForest (e : Editor) (label : String) : Option Forest → Outcome × Editor
  | some forest => e.commit label (e.state.withElements forest)
  | none => (.unchanged, e)

/-- Takes over a state of the history, if there is one. -/
def restore (e : Editor) : Option (EditorState × History EditorState) → Outcome × Editor
  | some (state, history) => (.applied, { e with state := state, history := history })
  | none => (.unchanged, e)

/-- Appends a copy of an element, unless it repeats the last add. -/
def addElement (e : Editor) (now : Int) (element : Element) : Outcome × Editor :=
  let (admitted, guard) := e.guard.offer ⟨element.type, element.node.position, now⟩
  let e := { e with guard := guard }
  if admitted then
    let (fresh, ids) := element.withFreshIds e.ids
    let next := e.state.withElements (e.state.elements ++ [fresh])
    { e with ids := ids }.commit "Add element" { next with selected := some fresh.id }
  else (.debounced, e)

/-- Deleting the element that is found under `id` takes the selected element away. -/
def deletesSelection (s : EditorState) (id : String) : Bool :=
  match Forest.find? s.elements id, s.selected with
  | some found, some selected => found.id == selected || Forest.hasId found.children selected
  | _, _ => false

/-- Removes an element. A selection below it is dropped, in the new state only. -/
def deleteElement (e : Editor) (id : String) : Outcome × Editor :=
  match e.commitForest "Delete element" (Forest.delete? e.state.elements id) with
  | (.applied, next) =>
    -- the recorded state keeps the selection: undoing brings it back
    if deletesSelection e.state id then next.amend { next.state with selected := none }
    else (.applied, next)
  | other => other

/-- All ids that a map of sections brings along. -/
def projectIds (sections : Sections) : List String :=
  sections.values.flatMap fun s => s.id :: Forest.ids s.elements

/-- What a step that cannot be refused did, and the editor after it. -/
def accepted (done : Outcome × Editor) : Except EditError Outcome × Editor := (.ok done.1, done.2)

/-- Replaces all sections and opens one of them: the asked one if there is such a key, else the home
section. -/
def loadProject (e : Editor) (sections : Sections) (active : Option String) :
    Except EditError Outcome × Editor :=
  let sections := sections.withSingleHome
  match (active.filter sections.contains).or (sections.home?.map Section.id) with
  | none => (.error .emptyProject, e)
  | some opened =>
    -- passing the ids of the project keeps new ids apart from them
    let e := { e with ids := e.ids.advancePast (projectIds sections), guard := e.guard.reset }
    accepted (e.commit "Load project"
      { e.state with sections := sections, activeSection := opened, selected := none })

/-- Adds an empty section under a new id and opens it. -/
def addSection (e : Editor) (name : String) : Outcome × Editor :=
  let slug := freeSlug (e.state.sections.values.map Section.slug) (slugify name)
  let (id, ids) := e.ids.next
  { e with ids := ids }.commit "Add section"
    (e.state.withSection { Section.new id name with slug := slug })

/-- Removes a section other than the home section. If it was open, the home section opens. -/
def removeSection (e : Editor) (id : String) : Except EditError Outcome × Editor :=
  match e.state.sections.get? id with
  | none => (.ok .unchanged, e)
  | some s =>
    if s.isHome then (.error (.cannotRemoveHome id), e)
    else accepted (e.commit "Remove section" (e.state.withoutSection id))

/-- A length that a canvas can have. -/
def validLength (x : Float) : Bool := x.isFinite && 0.0 < x

/-- Runs one command at a time in milliseconds: how it went, and the editor after it, also when the
command is refused. -/
def step (e : Editor) (now : Int) (c : Command) : Except EditError Outcome × Editor :=
  match c with
  | .addElement element => accepted (e.addElement now element)
  | .updateElement id patch =>
    accepted (e.commitForest c.label (Forest.update? e.state.elements id patch))
  | .deleteElement id => accepted (e.deleteElement id)
  | .selectElement id => accepted (e.amend { e.state with selected := id })
  | .moveElement id position =>
    accepted (e.commitForest c.label (Forest.reposition? e.state.elements id position))
  | .resizeElement id size =>
    accepted (e.commitForest c.label (Forest.resize? e.state.elements id size))
  | .reorderElements elements =>
    accepted (e.commitForest c.label (Forest.reorder? e.state.elements elements))
  | .setZoom zoom =>
    if zoom.isFinite then
      accepted (e.amend
        { e.state with viewport := { e.state.viewport with zoom := clampZoom zoom } })
    else (.error (.invalidZoom zoom), e)
  | .setCanvasSize width height =>
    if validLength width && validLength height then
      accepted (e.amend
        { e.state with viewport := { e.state.viewport with canvas := ⟨width, height⟩ } })
    else (.error (.invalidCanvasSize width height), e)
  | .loadTemplate elements =>
    let (fresh, ids) := Forest.withFreshIds e.ids elements
    accepted ({ e with ids := ids }.commit c.label
      { e.state.withElements fresh with selected := none })
  | .loadProject sections active => e.loadProject sections active
  | .clearCanvas => accepted (e.commit c.label { e.state.withElements [] with selected := none })
  | .addSection name => accepted (e.addSection name)
  | .removeSection id => e.removeSection id
  | .switchSection id =>
    if e.state.sections.contains id then
      accepted (e.amend { e.state with activeSection := id, selected := none })
    else (.ok .unchanged, e)
  | .undo => accepted (e.restore (e.history.undo? e.state))
  | .redo => accepted (e.restore (e.history.redo? e.state))

/-- Runs the command that a payload carries. A payload without one is refused. -/
def stepPayload (e : Editor) (now : Int) (payload : String) : Except EditError Outcome × Editor :=
  match Command.ofPayload? payload with
  | some c => e.step now c
  | none => (.error .malformedPayload, e)

/-- The outcome of one command and the next editor, or why the command is refused. -/
def dispatch (e : Editor) (now : Int) (c : Command) : Except EditError (Outcome × Editor) :=
  (e.step now c).1.map fun outcome => (outcome, (e.step now c).2)

/-- The outcome of a payload's command and the next editor, or why the payload is refused. -/
def dispatchPayload (e : Editor) (now : Int) (payload : String) :
    Except EditError (Outcome × Editor) :=
  (e.stepPayload now payload).1.map fun outcome => (outcome, (e.stepPayload now payload).2)

end Editor

end PageBuilder
