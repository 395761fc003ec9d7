import PageBuilder.Element

/-!
Elements in JSON documents. Only the id and the type have to be there; an element without children
is written without that field. Payloads have one more way to write a type than documents have, so
that elements are read with a given reader of types.
-/

namespace PageBuilder

mutual

def Element.toJson : Element → Json
  | .mk node children =>
    .obj ([("id", .str node.id), ("type", node.type.toJson), ("props", .ofMap node.props),
      ("styles", .ofMap node.styles), ("position", node.position.toJson),
      ("size", node.size.toJson)] ++
      (if children.isEmpty then [] else [("children", .arr (Forest.toJsonItems children))]))

/-- The elements of a forest as JSON values. -/
def Forest.toJsonItems : List Element → List Json
  | [] => []
  | e :: rest => e.toJson :: Forest.toJsonItems rest

end

def Forest.toJson (forest : Forest) : Json := .arr (Forest.toJsonItems forest)

/-- The names of an element's fields, in order. -/
def Element.fieldNames : List String :=
  ["id", "type", "props", "styles", "position", "size", "children"]

/-- The parts of an element's record that count, at most `depth` levels down. -/
def Element.outlineWithin : Nat → Json.Outline
  | 0 => .whole
  | depth + 1 => .fields fieldNames
      [("position", .fields Position.fieldNames []), ("size", .fields Size.fieldNames []),
        ("children", .each (Element.outlineWithin depth))]

/-- The parts of an element's record that count. Every level of it takes a level of the text. -/
def Element.outline : Json.Outline := outlineWithin Json.maxNesting

/-- The own data of the element that a record describes, its type as `readType` reads it. -/
def Node.ofFields? (readType : Json → Option ElementType) (f : Json.Fields) : Option Node := do
  return {
    id := ← f.required "id" Json.str?
    type := ← f.required "type" readType
    props := ← f.defaulted "props" .empty Json.map?
    styles := ← f.defaulted "styles" .empty Json.map?
    position := ← f.defaulted "position" .origin Position.ofJson?
    size := ← f.defaulted "size" .auto Size.ofJson? }

/-- The element that a JSON record describes, at most `depth` levels high. -/
def Element.ofJsonWithin? (readType : Json → Option ElementType) : Nat → Json → Option Element
  | 0, _ => none
  | depth + 1, j => do
    let f ← j.fields? fieldNames
    let node ← Node.ofFields? readType f
    let children ← f.defaulted "children" []
      (Json.list? (Element.ofJsonWithin? readType depth))
    return .mk node children

mutual

/-- Levels of a JSON value. -/
def Json.height : Json → Nat
  | .arr items => Json.itemsHeight items + 1
  | .obj members => Json.membersHeight members + 1
  | _ => 1

def Json.itemsHeight : List Json → Nat
  | [] => 0
  | j :: rest => max j.height (Json.itemsHeight rest)

def Json.membersHeight : List (String × Json) → Nat
  | [] => 0
  | (_, j) :: rest => max j.height (Json.membersHeight rest)

end

/-- The element that a JSON record describes, with types as `readType` reads them. The levels of
the record bound those of the element. -/
def Element.ofJsonWith? (readType : Json → Option ElementType) (j : Json) : Option Element :=
  Element.ofJsonWithin? readType j.height j

/-- The element that a JSON record describes. -/
def Element.ofJson? : Json → Option Element := Element.ofJsonWith? ElementType.ofJson?

/-- The element that a JSON record in a payload describes. -/
def Element.ofPayloadJson? : Json → Option Element := Element.ofJsonWith? ElementType.ofPayloadJson?

/-- The forest that a JSON list describes, with types as `readType` reads them. -/
def Forest.ofJsonWith? (readType : Json → Option ElementType) (j : Json) : Option Forest :=
  j.list? (Element.ofJsonWith? readType)

/-- The forest that a JSON list describes. -/
def Forest.ofJson? : Json → Option Forest := Forest.ofJsonWith? ElementType.ofJson?

/-- The forest that a JSON list in a payload describes. -/
def Forest.ofPayloadJson? : Json → Option Forest := Forest.ofJsonWith? ElementType.ofPayloadJson?

end PageBuilder
