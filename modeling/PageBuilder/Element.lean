import PageBuilder.ElementType
import PageBuilder.IdSource

/-!
Elements: a node with its own data and, below it, an ordered list of children. A forest is a list of
siblings; its order is the order of painting. `Element.preorder` lists a subtree from the top, and
everything that searches or visits a forest is stated on that list.
-/

namespace PageBuilder

/-- What an element holds apart from its children. -/
structure Node where
  id : String
  type : ElementType
  props : SortedMap Json
  styles : SortedMap Json
  position : Position
  size : Size

/-- An element with the subtrees below it. -/
inductive Element where
  | mk (node : Node) (children : List Element)

abbrev Forest := List Element

/-- Equality of two nodes, with numbers compared as numbers. -/
def Node.same (a b : Node) : Bool :=
  a.id == b.id && a.type == b.type && a.props.sameBy Json.same b.props &&
    a.styles.sameBy Json.same b.styles && a.position.same b.position && a.size.same b.size

namespace Element

def node : Element → Node
  | .mk node _ => node

def children : Element → Forest
  | .mk _ children => children

def id (e : Element) : String := e.node.id

def type (e : Element) : ElementType := e.node.type

instance : Inhabited Element := ⟨.mk ⟨"", .text, .empty, .empty, .origin, .auto⟩ []⟩

/-- A new element at the origin, with the size its type starts with. -/
def new (id : String) (type : ElementType) : Element :=
  .mk ⟨id, type, .empty, .empty, .origin, type.defaultSize⟩ []

/-- The element with its own data changed. -/
def mapNode (f : Node → Node) : Element → Element
  | .mk node children => .mk (f node) children

def withProp (e : Element) (key : String) (value : Json) : Element :=
  e.mapNode fun n => { n with props := n.props.insert key value }

def withStyle (e : Element) (key : String) (value : Json) : Element :=
  e.mapNode fun n => { n with styles := n.styles.insert key value }

/-- The element at another place. -/
def withPosition (e : Element) (position : Position) : Element :=
  e.mapNode fun n => { n with position := position }

/-- The element in another size. -/
def withSize (e : Element) (size : Size) : Element := e.mapNode fun n => { n with size := size }

/-- The element with one more child at the end. -/
def withChild (e child : Element) : Element := .mk e.node (e.children ++ [child])

end Element

mutual

/-- An element and everything below it, from the top and from left to right. -/
def Element.preorder : Element → List Element
  | .mk node children => .mk node children :: Forest.preorder children

/-- All elements of a forest, from the top and from left to right. -/
def Forest.preorder : List Element → List Element
  | [] => []
  | e :: rest => e.preorder ++ Forest.preorder rest

end

mutual

/-- Equality of two elements, with numbers compared as numbers. -/
def Element.same : Element → Element → Bool
  | .mk a as, .mk b bs => a.same b && Forest.same as bs

/-- Equality of two forests, element by element. -/
def Forest.same : List Element → List Element → Bool
  | [], [] => true
  | a :: as, b :: bs => a.same b && Forest.same as bs
  | _, _ => false

end

mutual

/-- The copy of a subtree in which every element has a new id, in preorder. -/
def Element.withFreshIds (ids : IdSource) : Element → Element × IdSource
  | .mk node children =>
    let (id, ids) := ids.next
    let (children, ids) := Forest.withFreshIds ids children
    (.mk { node with id := id } children, ids)

/-- The copy of a forest in which every element has a new id, in preorder. -/
def Forest.withFreshIds (ids : IdSource) : List Element → List Element × IdSource
  | [] => ([], ids)
  | e :: rest =>
    let (e, ids) := e.withFreshIds ids
    let (rest, ids) := Forest.withFreshIds ids rest
    (e :: rest, ids)

end

namespace Node

def propText? (n : Node) (key : String) : Option String := (n.props.get? key).bind Json.str?

/-- The finite number of a prop. A text that denotes a number counts as that number. -/
def propNumber? (n : Node) (key : String) : Option Float :=
  let value :=
    match n.props.get? key with
    | some (.num x) => some x.toFloat
    | some (.str s) => readDouble? (trim s)
    | _ => none
  value.filter Float.isFinite

/-- The truth value of a prop. The texts `true` and `false` count as truth values. -/
def propBool? (n : Node) (key : String) : Option Bool :=
  match n.props.get? key with
  | some (.bool b) => some b
  | some (.str s) => if s = "true" then some true else if s = "false" then some false else none
  | _ => none

/-- The items of a prop; a prop that is no list has none. -/
def propItems (n : Node) (key : String) : List Json :=
  ((n.props.get? key).bind Json.items?).getD []

end Node

end PageBuilder
