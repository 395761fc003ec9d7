import PageBuilder.Patch

/-!
Operations on a forest. Searching looks for the first element with an id in preorder. An edit gives
the changed forest, or `none` when no element has the id; everything it does not name stays.
-/

namespace PageBuilder

/-- The id that makes an update rearrange the top level instead of patching an element. -/
def reorderId : String := "__reorder__"

mutual

/-- The element with the first element of an id in it replaced. -/
def Element.replaceFirst? (id : String) (f : Element → Element) : Element → Option Element
  | .mk node children =>
    if node.id = id then some (f (.mk node children))
    else (Forest.replaceFirst? id f children).map fun children => .mk node children

/-- The forest with the first element of an id, in preorder, replaced. -/
def Forest.replaceFirst? (id : String) (f : Element → Element) :
    List Element → Option (List Element)
  | [] => none
  | e :: rest =>
    match e.replaceFirst? id f with
    | some e => some (e :: rest)
    | none => (Forest.replaceFirst? id f rest).map fun rest => e :: rest

end

/-- The siblings without the first one that has an id, if there is one. -/
def Forest.dropTop? (id : String) (forest : Forest) : Option Forest :=
  if forest.any fun e => e.id == id then some (forest.eraseP fun e => e.id == id) else none

mutual

/-- The element without a descendant of an id: a child if one has it, else the first found below the
children in order. -/
def Element.deleteBelow? (id : String) : Element → Option Element
  | .mk node children =>
    match Forest.dropTop? id children with
    | some children => some (.mk node children)
    | none => (Forest.deleteBelow? id children).map fun children => .mk node children

/-- The forest without an element of an id that lies below one of its siblings. -/
def Forest.deleteBelow? (id : String) : List Element → Option (List Element)
  | [] => none
  | e :: rest =>
    match e.deleteBelow? id with
    | some e => some (e :: rest)
    | none => (Forest.deleteBelow? id rest).map fun rest => e :: rest

end

/-- Takes the elements with the given ids out of `pool`, one for each id and the first of its kind
each time. -/
def Forest.pick? : List String → (pool : Forest) → Option Forest
  | [], _ => some []
  | id :: ids, pool =>
    match pool.find? fun e => e.id == id with
    | none => none
    | some e => (Forest.pick? ids (pool.eraseP fun e => e.id == id)).map fun rest => e :: rest

namespace Forest

def find? (forest : Forest) (id : String) : Option Element :=
  (Forest.preorder forest).find? fun e => e.id == id

def hasId (forest : Forest) (id : String) : Bool := (Forest.find? forest id).isSome

def ids (forest : Forest) : List String := (Forest.preorder forest).map Element.id

def count (forest : Forest) : Nat := (Forest.preorder forest).length

/-- The forest without the subtree of an id, which is looked for among siblings before it is looked
for below them. -/
def delete? (forest : Forest) (id : String) : Option Forest :=
  match Forest.dropTop? id forest with
  | some rest => some rest
  | none => Forest.deleteBelow? id forest

/-- The forest with the element of an id at another place. -/
def reposition? (forest : Forest) (id : String) (position : Position) : Option Forest :=
  Forest.replaceFirst? id (fun e => e.withPosition position) forest

/-- The forest with the element of an id in another size. -/
def resize? (forest : Forest) (id : String) (size : Size) : Option Forest :=
  Forest.replaceFirst? id (fun e => e.withSize size) forest

/-- The top level in the order of `order`, which has to name each of its ids exactly once. Only ids
are read from `order`; the elements are the forest's own. -/
def reorder? (forest : Forest) (order : Forest) : Option Forest :=
  if order.length = forest.length then Forest.pick? (order.map Element.id) forest else none

/-- The forest with the element of an id patched. The reserved id rearranges the top level to the
patch's children instead. -/
def update? (forest : Forest) (id : String) (patch : Patch) : Option Forest :=
  if id = reorderId then patch.children.bind fun order => Forest.reorder? forest order
  else Forest.replaceFirst? id patch.apply forest

end Forest

end PageBuilder
