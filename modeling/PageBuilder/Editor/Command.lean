import PageBuilder.Json.Reader
import PageBuilder.Section

/-!
Edit commands as data. In JSON a command is a record with its kind under `type`; drop payloads and
edit scripts carry commands in that form.
-/

namespace PageBuilder

/-- A change of the document, of the selection or of the view. -/
inductive Command where
  /-- Appends a copy with new ids to the active section and selects it. -/
  | addElement (element : Element)
  /-- Patches an element of the active section. -/
  | updateElement (id : String) (patch : Patch)
  /-- Removes an element with everything below it. -/
  | deleteElement (id : String)
  /-- Changes the selection. -/
  | selectElement (id : Option String)
  | moveElement (id : String) (position : Position)
  | resizeElement (id : String) (size : Size)
  /-- Rearranges the top level of the active section. -/
  | reorderElements (elements : Forest)
  | setZoom (zoom : Float)
  | setCanvasSize (width height : Float)
  /-- Replaces the active forest by copies with new ids. -/
  | loadTemplate (elements : Forest)
  /-- Replaces all sections. -/
  | loadProject (sections : Sections) (activeSection : Option String)
  /-- Empties the active section. -/
  | clearCanvas
  | addSection (name : String)
  | removeSection (id : String)
  | switchSection (id : String)
  | undo
  | redo

namespace Command

/-- The name shown for a command. -/
def label : Command → String
  | .addElement .. => "Add element"
  | .updateElement .. => "Update element"
  | .deleteElement .. => "Delete element"
  | .selectElement .. => "Select element"
  | .moveElement .. => "Move element"
  | .resizeElement .. => "Resize element"
  | .reorderElements .. => "Reorder elements"
  | .setZoom .. => "Set zoom"
  | .setCanvasSize .. => "Set canvas size"
  | .loadTemplate .. => "Load template"
  | .loadProject .. => "Load project"
  | .clearCanvas => "Clear canvas"
  | .addSection .. => "Add section"
  | .removeSection .. => "Remove section"
  | .switchSection .. => "Switch section"
  | .undo => "Undo"
  | .redo => "Redo"

/-- The kind of a command in JSON. -/
def kind : Command → String
  | .addElement .. => "addElement"
  | .updateElement .. => "updateElement"
  | .deleteElement .. => "deleteElement"
  | .selectElement .. => "selectElement"
  | .moveElement .. => "moveElement"
  | .resizeElement .. => "resizeElement"
  | .reorderElements .. => "reorderElements"
  | .setZoom .. => "setZoom"
  | .setCanvasSize .. => "setCanvasSize"
  | .loadTemplate .. => "loadTemplate"
  | .loadProject .. => "loadProject"
  | .clearCanvas => "clearCanvas"
  | .addSection .. => "addSection"
  | .removeSection .. => "removeSection"
  | .switchSection .. => "switchSection"
  | .undo => "undo"
  | .redo => "redo"

/-- The fields of a command besides its kind. -/
def fields : Command → List (String × Json)
  | .addElement element => [("element", element.toJson)]
  | .updateElement id patch => [("id", .str id), ("patch", patch.toJson)]
  | .deleteElement id => [("id", .str id)]
  | .selectElement id => [("id", .option .str id)]
  | .moveElement id position => [("id", .str id), ("position", position.toJson)]
  | .resizeElement id size => [("id", .str id), ("size", size.toJson)]
  | .reorderElements elements => [("elements", Forest.toJson elements)]
  | .setZoom zoom => [("zoom", .ofFloat zoom)]
  | .setCanvasSize width height => [("width", .ofFloat width), ("height", .ofFloat height)]
  | .loadTemplate elements => [("elements", Forest.toJson elements)]
  | .loadProject sections active =>
    [("sections", sections.toJson), ("activeSection", .option .str active)]
  | .clearCanvas => []
  | .addSection name => [("name", .str name)]
  | .removeSection id => [("id", .str id)]
  | .switchSection id => [("id", .str id)]
  | .undo => []
  | .redo => []

def toJson (c : Command) : Json := .obj (("type", .str c.kind) :: c.fields)

/-- The command of a kind whose other fields stand in `body`. -/
def ofKind? (kind : String) (body : Json) : Option Command :=
  match kind with
  | "addElement" => do
    let f ← body.fields? ["element"]
    return .addElement (← f.required "element" Element.ofPayloadJson?)
  | "updateElement" => do
    let f ← body.fields? ["id", "patch"]
    return .updateElement (← f.required "id" Json.str?) (← f.required "patch" Patch.ofPayloadJson?)
  | "deleteElement" => do
    let f ← body.fields? ["id"]
    return .deleteElement (← f.required "id" Json.str?)
  | "selectElement" => do
    let f ← body.fields? ["id"]
    return .selectElement (← f.optional "id" Json.str?)
  | "moveElement" => do
    let f ← body.fields? ["id", "position"]
    return .moveElement (← f.required "id" Json.str?) (← f.required "position" Position.ofJson?)
  | "resizeElement" => do
    let f ← body.fields? ["id", "size"]
    return .resizeElement (← f.required "id" Json.str?) (← f.required "size" Size.ofJson?)
  | "reorderElements" => do
    let f ← body.fields? ["elements"]
    return .reorderElements (← f.required "elements" Forest.ofPayloadJson?)
  | "setZoom" => do
    let f ← body.fields? ["zoom"]
    return .setZoom (← f.required "zoom" Json.float?)
  | "setCanvasSize" => do
    let f ← body.fields? ["width", "height"]
    return .setCanvasSize (← f.required "width" Json.float?) (← f.required "height" Json.float?)
  | "loadTemplate" => do
    let f ← body.fields? ["elements"]
    return .loadTemplate (← f.required "elements" Forest.ofPayloadJson?)
  | "loadProject" => do
    let f ← body.fields? ["sections", "activeSection"]
    return .loadProject (← f.required "sections" Sections.ofPayloadJson?)
      (← f.optionalEnd "activeSection" Json.str?)
  | "clearCanvas" => (body.fields? []).map fun _ => .clearCanvas
  | "addSection" => do
    let f ← body.fields? ["name"]
    return .addSection (← f.required "name" Json.str?)
  | "removeSection" => do
    let f ← body.fields? ["id"]
    return .removeSection (← f.required "id" Json.str?)
  | "switchSection" => do
    let f ← body.fields? ["id"]
    return .switchSection (← f.required "id" Json.str?)
  | "undo" => (body.fields? []).map fun _ => .undo
  | "redo" => (body.fields? []).map fun _ => .redo
  | _ => none

/-- The command that JSON describes: a record with its kind under `type`, or a list that starts with
the kind. -/
def ofJson? : Json → Option Command
  | .obj members =>
    match members.filter fun m => m.1 == "type" with
    | [(_, .str kind)] => ofKind? kind (.obj (members.filter fun m => m.1 != "type"))
    | _ => none
  | .arr (.str kind :: rest) => ofKind? kind (.arr rest)
  | _ => none

def ofPayload? (payload : String) : Option Command := (Json.read? payload).bind ofJson?

end Command

/-- What a command did. -/
inductive Outcome where
  | applied
  /-- Nothing matched. -/
  | unchanged
  /-- An add that repeats the one before it. -/
  | debounced
deriving DecidableEq, Repr

end PageBuilder
