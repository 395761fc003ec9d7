import PageBuilder.Element
import PageBuilder.Html.Style
import PageBuilder.Html.Tree

/-!
The box of an element: the attributes that every rendered element has, in their order.
-/

namespace PageBuilder

/-- How an element is placed in its parent. -/
inductive Placement where
  /-- At its own offsets. -/
  | absolute
  /-- As a cell that the parent lays out. -/
  | flow
deriving DecidableEq, Repr

/-- The declarations that place an element. -/
def placementStyle (placement : Placement) (position : Position) : Declarations :=
  match placement with
  | .absolute =>
    [("position", "absolute"), ("left", formatPx position.x), ("top", formatPx position.y)]
  | .flow => [("position", "relative")]

/-- Geometry first, then what the type adds, then the element's own styles. -/
def boxStyle (n : Node) (placement : Placement) (extra : Declarations) : Declarations :=
  placementStyle placement n.position ++
    [("width", n.size.width.text), ("height", n.size.height.text)] ++ extra ++
    Declarations.ofStyles n.styles

/-- The class that names an element's type. -/
def typeClass : ElementType → String
  | .cardsCarousel => "cards-carousel"
  | .catalogSection => "catalog"
  | t => t.name

/-- The class that all forms share. -/
def formClass : ElementType → String
  | .contactForm | .newsletterForm | .searchForm => " pc-form"
  | _ => ""

/-- The attributes of an element's box, with those of its type between class and style. -/
def boxAttrs (n : Node) (placement : Placement) (extra : Declarations) (attrs : List Attr) :
    List Attr :=
  [attr "id" ("pc-" ++ n.id),
    attr "class" ("pc-el pc-" ++ typeClass n.type ++ formClass n.type)] ++ attrs ++
    [attr "style" (boxStyle n placement extra).css]

end PageBuilder
