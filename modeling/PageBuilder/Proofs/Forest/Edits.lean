import PageBuilder.Proofs.Forest.Gap

/-!
Edits of one element. Patching, moving and resizing change the element that a search finds and
nothing else: every other node keeps its data and its address, which is the list of positions among
siblings that leads to it.
-/

namespace PageBuilder

/-- A node with its address. -/
abbrev Row := List Nat × Node

/-- A row seen from further up. -/
def Row.below (address : List Nat) (r : Row) : Row := (address ++ r.1, r.2)

mutual

/-- The rows of an element and of everything below it, in preorder and with addresses that begin at
the element. -/
def Element.rows : Element → List Row
  | .mk node children => ([], node) :: Forest.rowsFrom 0 children

/-- The rows of siblings whose positions begin with `i`. -/
def Forest.rowsFrom (i : Nat) : List Element → List Row
  | [] => []
  | e :: rest => e.rows.map (Row.below [i]) ++ Forest.rowsFrom (i + 1) rest

end

/-- The nodes of a forest in preorder, each with its address. -/
def Forest.rows (forest : Forest) : List Row := Forest.rowsFrom 0 forest

theorem Forest.rowsFrom_append (i : Nat) (left right : Forest) :
    Forest.rowsFrom i (left ++ right) =
      Forest.rowsFrom i left ++ Forest.rowsFrom (i + left.length) right := by
  induction left generalizing i with
  | nil => simp [Forest.rowsFrom]
  | cons e rest ih =>
    simp [Forest.rowsFrom, ih, Nat.add_comm, Nat.add_left_comm]

mutual

theorem Element.rows_nodes (e : Element) : e.rows.map Prod.snd = e.nodes := by
  cases e with
  | mk node children => simp [Element.rows, Element.nodes_mk, Forest.rowsFrom_nodes 0 children]

theorem Forest.rowsFrom_nodes (i : Nat) (forest : List Element) :
    (Forest.rowsFrom i forest).map Prod.snd = Forest.nodes forest := by
  cases forest with
  | nil => simp [Forest.rowsFrom, Forest.nodes_nil]
  | cons e rest =>
    have hshift : Prod.snd ∘ Row.below [i] = Prod.snd := rfl
    simp [Forest.rowsFrom, Forest.nodes_cons, hshift, Element.rows_nodes e,
      Forest.rowsFrom_nodes (i + 1) rest]

end

namespace Gap

/-- The address of the gap, if positions on the top level begin with `i`. -/
def addressFrom (i : Nat) : Gap → List Nat
  | among left _ => [i + left.length]
  | inside left _ inner _ => (i + left.length) :: inner.addressFrom 0

/-- The address of the gap. -/
def address (p : Gap) : List Nat := p.addressFrom 0

/-- Whatever fills a gap, the other rows stay as they are. -/
theorem rowsFrom_fill (p : Gap) (i : Nat) :
    ∃ front back, (∀ e, Forest.rowsFrom i (p.fill e) =
        front ++ e.rows.map (Row.below (p.addressFrom i)) ++ back) ∧
      front.map Prod.snd = p.ahead := by
  induction p generalizing i with
  | among left right =>
    refine ⟨Forest.rowsFrom i left, Forest.rowsFrom (i + left.length + 1) right, fun e => ?_,
      Forest.rowsFrom_nodes i left⟩
    simp [fill, addressFrom, Forest.rowsFrom_append, Forest.rowsFrom]
  | inside left node inner right ih =>
    -- the rows below the node are those of its children, seen from one level further up
    obtain ⟨front, back, hrows, hfront⟩ := ih 0
    let outer := Row.below [i + left.length]
    have hdeeper : outer ∘ Row.below (inner.addressFrom 0) =
        Row.below ((i + left.length) :: inner.addressFrom 0) := rfl
    have hdata : Prod.snd ∘ outer = Prod.snd := rfl
    refine ⟨Forest.rowsFrom i left ++ outer ([], node) :: front.map outer,
      back.map outer ++ Forest.rowsFrom (i + left.length + 1) right, fun e => ?_, ?_⟩
    · simp [fill, addressFrom, Forest.rowsFrom_append, Forest.rowsFrom, Element.rows, hrows,
        ← hdeeper, outer]
    · simp [ahead, Forest.rowsFrom_nodes, hdata, hfront]
      rfl

end Gap

namespace Forest

variable (forest : Forest) (id : String)

/-- An edit by a patch has an outcome exactly if an element has the id. Then the element that is
found has the patched fields and is found again, all else stands where it stood, and the ids stay
unless the patch brings children. -/
def PatchesFound (patch : Patch) (outcome : Option Forest) : Prop :=
  (outcome = none ↔ id ∉ ids forest) ∧
  ∀ after, outcome = some after →
    ∃ (gap : Gap) (node : Node) (children : Forest),
      let found := Element.mk node children
      let patched := Element.mk
        { node with
          props := patch.props.getD node.props
          styles := patch.styles.getD node.styles
          position := patch.position.getD node.position
          size := patch.size.getD node.size }
        (patch.children.getD children)
      find? forest id = some found ∧ gap.FirstOf id ∧
      forest = gap.fill found ∧ after = gap.fill patched ∧
      (∃ front back,
        forest.rows = front ++ found.rows.map (Row.below gap.address) ++ back ∧
        after.rows = front ++ patched.rows.map (Row.below gap.address) ++ back) ∧
      find? after id = some patched ∧
      (patch.children = none → ids after = ids forest ∧ count after = count forest)

variable {forest id}

/-- An edit that replaces the first element of the id by its patched copy patches what is found. -/
theorem replaceFirst?_patchesFound (patch : Patch) :
    PatchesFound forest id patch (replaceFirst? id patch.apply forest) := by
  refine ⟨?_, fun after hafter => ?_⟩
  · rw [replaceFirst?_eq_none, mem_ids]
    simp
  · obtain ⟨gap, ⟨node, children⟩, hid, hfirst, rfl, rfl⟩ := replaceFirst?_gap hafter
    obtain ⟨front, back, hrows, -⟩ := gap.rowsFrom_fill 0
    refine ⟨gap, node, children, Gap.find?_fill hfirst hid, hfirst, rfl, rfl,
      ⟨front, back, hrows _, hrows _⟩, Gap.find?_fill hfirst hid, fun hchildren => ?_⟩
    -- without new children the ids of the patched copy are those of the element
    have hnodes : ((patch.apply (.mk node children)).nodes).map Node.id =
        (Element.mk node children).nodes.map Node.id := by
      rw [Patch.apply, hchildren, Element.nodes_mk, Element.nodes_mk]
      rfl
    have hids : ids (gap.fill (patch.apply (.mk node children))) =
        ids (gap.fill (.mk node children)) := by
      simp only [ids_eq, Gap.nodes_fill, List.map_append, hnodes]
    refine ⟨hids, ?_⟩
    have hlength := congrArg List.length hids
    simpa only [ids_eq, List.length_map, ← count_eq] using hlength

/-- Updating, moving and resizing patch exactly the element that is found under an id; they miss
exactly if there is none. The reserved id is no element's for an update. -/
theorem edits_patch_found (forest : Forest) (id : String) :
    (∀ patch, id ≠ reorderId → PatchesFound forest id patch (update? forest id patch)) ∧
    (∀ position, PatchesFound forest id { position := some position }
      (reposition? forest id position)) ∧
    ∀ size, PatchesFound forest id { size := some size } (resize? forest id size) := by
  refine ⟨fun patch hid => ?_, fun position => ?_, fun size => ?_⟩
  · rw [update?, if_neg hid]
    exact replaceFirst?_patchesFound patch
  · have hmoved : reposition? forest id position =
        replaceFirst? id (Patch.apply { position := some position }) forest := rfl
    rw [hmoved]
    exact replaceFirst?_patchesFound _
  · have hresized : resize? forest id size =
        replaceFirst? id (Patch.apply { size := some size }) forest := rfl
    rw [hresized]
    exact replaceFirst?_patchesFound _

/-- Two elements of one id: the first below a container, the other one behind it. -/
def twins : Forest := [(Element.new "a" .container).withChild (.new "b" .text), .new "b" .text]

theorem edits_patch_found_twins :
    "b" ≠ reorderId ∧
    PatchesFound twins "b" { children := some [.new "c" .image] }
      (update? twins "b" { children := some [.new "c" .image] }) ∧
    (update? twins "b" { children := some [.new "c" .image] }).map ids =
      some ["a", "b", "c", "b"] := by
  have hid : "b" ≠ reorderId := by decide
  exact ⟨hid, (edits_patch_found twins "b").1 _ hid, by decide +kernel⟩

end Forest

end PageBuilder
