import PageBuilder.Section

/-!
What a snapshot of an editing session captures: the sections, the active one, the selection and the
view of the canvas.
-/

namespace PageBuilder

/-- The size of the canvas in pixels. -/
structure CanvasSize where
  width : Float
  height : Float

/-- The view of the canvas. -/
structure Viewport where
  zoom : Float
  canvas : CanvasSize

/-- A document under edit. -/
structure EditorState where
  sections : Sections
  activeSection : String
  selected : Option String
  viewport : Viewport

/-- The id of the section that every session starts with. -/
def homeSectionId : String := "home"

def CanvasSize.toJson (c : CanvasSize) : Json :=
  .obj [("width", .ofFloat c.width), ("height", .ofFloat c.height)]

def Viewport.toJson (v : Viewport) : Json :=
  .obj [("zoom", .ofFloat v.zoom), ("canvas", v.canvas.toJson)]

namespace EditorState

/-- One empty home section and no selection. -/
def new (canvas : CanvasSize) : EditorState :=
  { sections := SortedMap.empty.insert homeSectionId (Section.home homeSectionId "Home")
    activeSection := homeSectionId
    selected := none
    viewport := ⟨1.0, canvas⟩ }

def active? (s : EditorState) : Option Section := s.sections.get? s.activeSection

/-- The forest of the active section. -/
def elements (s : EditorState) : Forest := (s.active?.map Section.elements).getD []

/-- The state with another forest in the active section. -/
def withElements (s : EditorState) (forest : Forest) : EditorState :=
  match s.active? with
  | some a => { s with sections := s.sections.insert s.activeSection { a with elements := forest } }
  | none => s

/-- The selected element, looked for in the active section. -/
def selectedElement? (s : EditorState) : Option Element :=
  s.selected.bind fun id => Forest.find? s.elements id

/-- The id of the home section. -/
def homeId? (s : EditorState) : Option String := s.sections.home?.map Section.id

/-- The state with one more section, which is opened. -/
def withSection (s : EditorState) (added : Section) : EditorState :=
  { s with
    sections := s.sections.insert added.id added
    activeSection := added.id
    selected := none }

/-- The state without the section of a key. If it was open, the home section opens. -/
def withoutSection (s : EditorState) (key : String) : EditorState :=
  let rest := { s with sections := s.sections.erase key }
  if rest.activeSection = key then
    { rest with activeSection := rest.homeId?.getD "", selected := none }
  else rest

def toJson (s : EditorState) : Json :=
  .obj [("sections", s.sections.toJson), ("activeSection", .str s.activeSection),
    ("selected", .option .str s.selected), ("viewport", s.viewport.toJson)]

end EditorState

end PageBuilder
