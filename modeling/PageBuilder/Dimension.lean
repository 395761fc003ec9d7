import PageBuilder.Decimal.Shortest
import PageBuilder.Decimal.Reader
import PageBuilder.Json.Fields
import PageBuilder.Text.Cut
import PageBuilder.Text.Printable

/-!
Geometry of an element: where it stands, and how large it is along each axis. A length is a number
of pixels or left to the content (`auto`).
-/

namespace PageBuilder

/-- Texts that are no value of the document's vocabulary. -/
inductive Malformed where
  | dimension (text : String)
  | elementType (name : String)
deriving DecidableEq, Repr

def Malformed.message : Malformed → String
  | .dimension text => "Invalid dimension: " ++ quoted text ++ " (expected \"<n>px\" or \"auto\")"
  | .elementType name => "Unknown element type: " ++ name

/-- An offset in pixels from the owning section or container. -/
structure Position where
  x : Float
  y : Float

def Position.origin : Position := ⟨0.0, 0.0⟩

/-- Equality of both coordinates as numbers. -/
def Position.same (a b : Position) : Bool := a.x == b.x && a.y == b.y

def Position.toJson (p : Position) : Json := .obj [("x", .ofFloat p.x), ("y", .ofFloat p.y)]

/-- The names of a position's fields, in order. -/
def Position.fieldNames : List String := ["x", "y"]

/-- The position that a JSON record describes. -/
def Position.ofJson? (j : Json) : Option Position := do
  let f ← j.fields? fieldNames
  return ⟨← f.required "x" Json.float?, ← f.required "y" Json.float?⟩

/-- The length along one axis. -/
inductive Dimension where
  | px (length : Float)
  | auto

namespace Dimension

/-- The number of pixels, if there is one. -/
def px? : Dimension → Option Float
  | .px x => some x
  | .auto => none

/-- Equality, with lengths compared as numbers. -/
def same : Dimension → Dimension → Bool
  | .px a, .px b => a == b
  | .auto, .auto => true
  | _, _ => false

def text : Dimension → String
  | .px x => formatPx x
  | .auto => "auto"

/-- The dimension that a text denotes: `auto`, or a finite number before `px`. White space around
the text and before the unit does not count. -/
def ofText (s : String) : Except Malformed Dimension :=
  let cs := trimChars s.toList
  if cs = "auto".toList then .ok .auto
  else
    match (beforeBack? "px".toList cs).bind fun n => readDouble? (trim (String.ofList n)) with
    | some x => if x.isFinite then .ok (.px x) else .error (.dimension s)
    | none => .error (.dimension s)

/-- A dimension as JSON: its written form. -/
def toJson (d : Dimension) : Json := .str d.text

/-- The dimension of a JSON text, or a bare number of pixels. -/
def ofJson? : Json → Option Dimension
  | .str s => (ofText s).toOption
  | .num n => if n.toFloat.isFinite then some (.px n.toFloat) else none
  | _ => none

end Dimension

/-- Width and height. -/
structure Size where
  width : Dimension
  height : Dimension

def Size.auto : Size := ⟨.auto, .auto⟩

/-- Equality along both axes. -/
def Size.same (a b : Size) : Bool := a.width.same b.width && a.height.same b.height

def Size.toJson (s : Size) : Json := .obj [("width", s.width.toJson), ("height", s.height.toJson)]

/-- The names of a size's fields, in order. -/
def Size.fieldNames : List String := ["width", "height"]

/-- The size that a JSON record describes. -/
def Size.ofJson? (j : Json) : Option Size := do
  let f ← j.fields? fieldNames
  return ⟨← f.required "width" Dimension.ofJson?, ← f.required "height" Dimension.ofJson?⟩

end PageBuilder
