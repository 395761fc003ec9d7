import PageBuilder.Element.Json

/-!
Patches: a field that is present replaces the element's field as a whole.
-/

namespace PageBuilder

/-- New values for some of an element's fields. -/
structure Patch where
  props : Option (SortedMap Json) := none
  styles : Option (SortedMap Json) := none
  position : Option Position := none
  size : Option Size := none
  children : Option Forest := none

namespace Patch

def isEmpty (p : Patch) : Bool :=
  p.props.isNone && p.styles.isNone && p.position.isNone && p.size.isNone && p.children.isNone

/-- A node with the patched fields of its own. -/
def applyNode (p : Patch) (n : Node) : Node :=
  { n with
    props := p.props.getD n.props
    styles := p.styles.getD n.styles
    position := p.position.getD n.position
    size := p.size.getD n.size }

/-- The patched element. Its id and its type stay. -/
def apply (p : Patch) : Element → Element
  | .mk node children => .mk (p.applyNode node) (p.children.getD children)

/-- A patch as JSON; absent fields are left out. -/
def toJson (p : Patch) : Json :=
  let field {α : Type} (name : String) (value : Option α) (f : α → Json) : List (String × Json) :=
    match value with
    | some v => [(name, f v)]
    | none => []
  .obj (field "props" p.props .ofMap ++ field "styles" p.styles .ofMap ++
    field "position" p.position Position.toJson ++ field "size" p.size Size.toJson ++
    field "children" p.children Forest.toJson)

/-- The patch that a JSON record describes, with types as `readType` reads them. -/
def ofJsonWith? (readType : Json → Option ElementType) (j : Json) : Option Patch := do
  let f ← j.fields? ["props", "styles", "position", "size", "children"]
  return {
    props := ← f.optionalEnd "props" Json.map?
    styles := ← f.optionalEnd "styles" Json.map?
    position := ← f.optionalEnd "position" Position.ofJson?
    size := ← f.optionalEnd "size" Size.ofJson?
    children := ← f.optionalEnd "children" (Forest.ofJsonWith? readType) }

/-- The patch that a JSON record describes. -/
def ofJson? : Json → Option Patch := ofJsonWith? ElementType.ofJson?

/-- The patch that a JSON record in a payload describes. -/
def ofPayloadJson? : Json → Option Patch := ofJsonWith? ElementType.ofPayloadJson?

end Patch

end PageBuilder
