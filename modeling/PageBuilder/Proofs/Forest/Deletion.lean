import PageBuilder.Proofs.Forest.Edits

/-!
Deleting an element. One whole subtree goes, which is one block of the forest's nodes in preorder;
the nodes on both sides of it keep their data, their depth and their order.
-/

namespace PageBuilder

mutual

/-- The nodes of an element in preorder, each with its depth, where the element stands at `depth`. -/
def Element.levels (depth : Nat) : Element → List (Nat × Node)
  | .mk node children => (depth, node) :: Forest.levels (depth + 1) children

/-- The nodes of siblings that stand at `depth`, and of all below them, each with its depth. -/
def Forest.levels (depth : Nat) : List Element → List (Nat × Node)
  | [] => []
  | e :: rest => e.levels depth ++ Forest.levels depth rest

end

mutual

theorem Element.levels_nodes (depth : Nat) (e : Element) :
    (e.levels depth).map Prod.snd = e.nodes := by
  cases e with
  | mk node children =>
    rw [Element.levels, List.map_cons, Forest.levels_nodes (depth + 1) children, Element.nodes_mk]

/-- Without the depths the nodes in preorder are left. -/
theorem Forest.levels_nodes (depth : Nat) (forest : Forest) :
    (Forest.levels depth forest).map Prod.snd = Forest.nodes forest := by
  cases forest with
  | nil => rw [Forest.levels, List.map_nil, Forest.nodes_nil]
  | cons e rest =>
    rw [Forest.levels, List.map_append, Element.levels_nodes depth e,
      Forest.levels_nodes depth rest, Forest.nodes_cons]

end

theorem Forest.levels_append (depth : Nat) (left right : Forest) :
    Forest.levels depth (left ++ right) =
      Forest.levels depth left ++ Forest.levels depth right := by
  induction left with
  | nil => rfl
  | cons e rest ih => simp only [List.cons_append, Forest.levels, ih, List.append_assoc]

namespace Gap

/-- How many elements the gap stands below. -/
def depth : Gap → Nat
  | among _ _ => 0
  | inside _ _ inner _ => inner.depth + 1

/-- Taking an element out of a gap takes its nodes out of the preorder, at the depth of the gap. The
nodes around them keep their depths. -/
theorem levels_close (p : Gap) (e : Element) (top : Nat) :
    Splices (e.levels (top + p.depth)) [] (Forest.levels top (p.fill e))
      (Forest.levels top p.close) := by
  induction p generalizing top with
  | among left right =>
    refine ⟨Forest.levels top left, Forest.levels top right, ?_, ?_⟩
    · rw [fill, Forest.levels_append, Forest.levels, List.append_assoc]
      rfl
    · rw [close, Forest.levels_append, List.append_nil]
  | inside left node inner right ih =>
    -- the children of the node stand one level below it
    have hinner := ih (top + 1)
    have hdepth : top + 1 + inner.depth = top + (inside left node inner right).depth := by
      rw [depth]
      omega
    rw [hdepth] at hinner
    have hnode := (hinner.append_left [(top, node)]).append_right (Forest.levels top right)
    have houter := hnode.append_left (Forest.levels top left)
    rw [fill, close, Forest.levels_append, Forest.levels_append]
    exact houter

/-- An element in a gap is one of the elements of the filled forest. -/
theorem mem_preorder_fill (p : Gap) (e : Element) : e ∈ Forest.preorder (p.fill e) := by
  induction p with
  | among left right =>
    have hself : e ∈ e.preorder := by
      cases e with
      | mk node children => exact List.mem_cons_self ..
    rw [fill, Forest.preorder_append, Forest.preorder]
    exact List.mem_append_right _ (List.mem_append_left _ hself)
  | inside left node inner right ih =>
    rw [fill, Forest.preorder_append, Forest.preorder, Element.preorder]
    apply List.mem_append_right
    apply List.mem_append_left
    exact List.mem_cons_of_mem _ ih

end Gap

namespace Forest

variable {forest : Forest} {id : String}

/-- A node of a forest is that of a sibling or stands below one. -/
theorem forall_mem_nodes {P : Node → Prop} :
    (∀ n ∈ nodes forest, P n) ↔
      (∀ e ∈ forest, P e.node) ∧ ∀ e ∈ forest, ∀ n ∈ nodes e.children, P n := by
  induction forest with
  | nil => simp [nodes_nil]
  | cons e rest ih =>
    rw [nodes_cons, List.forall_mem_append, ih, Element.nodes_eq, List.forall_mem_cons,
      List.forall_mem_cons, List.forall_mem_cons]
    tauto

theorem dropTop?_eq_none : dropTop? id forest = none ↔ ∀ e ∈ forest, e.node.id ≠ id := by
  unfold dropTop?
  rw [ite_eq_right_iff]
  simp [Element.id]

end Forest

mutual

theorem Element.deleteBelow?_eq_none {id : String} (e : Element) :
    e.deleteBelow? id = none ↔ ∀ n ∈ Forest.nodes e.children, n.id ≠ id := by
  cases e with
  | mk node children =>
    rw [Element.children, Forest.forall_mem_nodes, ← Forest.dropTop?_eq_none,
      ← Forest.deleteBelow?_eq_none children, Element.deleteBelow?]
    cases Forest.dropTop? id children <;> simp

/-- Looking below the siblings misses exactly if no node there has the id. -/
theorem Forest.deleteBelow?_eq_none {id : String} (forest : Forest) :
    Forest.deleteBelow? id forest = none ↔
      ∀ e ∈ forest, ∀ n ∈ Forest.nodes e.children, n.id ≠ id := by
  cases forest with
  | nil => simp [Forest.deleteBelow?]
  | cons e rest =>
    rw [List.forall_mem_cons, ← Element.deleteBelow?_eq_none e,
      ← Forest.deleteBelow?_eq_none rest, Forest.deleteBelow?]
    cases e.deleteBelow? id <;> simp

end

namespace Forest

theorem delete?_eq_none {forest : Forest} {id : String} :
    delete? forest id = none ↔ id ∉ ids forest := by
  have hids : id ∉ ids forest ↔ ∀ n ∈ nodes forest, n.id ≠ id := by
    rw [mem_ids]
    simp
  rw [hids, forall_mem_nodes, ← dropTop?_eq_none, ← deleteBelow?_eq_none forest]
  unfold delete?
  cases dropTop? id forest <;> simp

/-- `after` is the forest without one of its subtrees, that of `gone`: its nodes are one block of the
forest's, and those before and behind the block keep their data, their depth and their order. -/
structure TakesOut (gone : Element) (forest after : Forest) : Prop where
  subtree : gone ∈ Forest.preorder forest
  nodes : Splices gone.nodes [] (Forest.nodes forest) (Forest.nodes after)
  levels : ∃ depth, Splices (gone.levels depth) [] (Forest.levels 0 forest) (Forest.levels 0 after)
  count : Forest.count after + Forest.count [gone] = Forest.count forest

end Forest

theorem Gap.takesOut (p : Gap) (gone : Element) : Forest.TakesOut gone (p.fill gone) p.close := by
  have hlevels := p.levels_close gone 0
  have hnodes := hlevels.map Prod.snd
  rw [Element.levels_nodes, Forest.levels_nodes, Forest.levels_nodes] at hnodes
  refine ⟨p.mem_preorder_fill gone, hnodes, ⟨_, hlevels⟩, ?_⟩
  rw [Forest.count_eq, Forest.count_eq, Forest.count_eq, p.nodes_fill, p.nodes_close,
    Forest.nodes_cons, Forest.nodes_nil]
  simp only [List.length_append, List.append_nil]
  omega

namespace Forest

/-- Deleting misses exactly if no element has the id, and takes exactly one subtree out otherwise,
that of an element of the id. With distinct ids it is the subtree of the element that a search finds,
and none of its ids is left. -/
theorem delete_takes_subtree (forest : Forest) (id : String) :
    (delete? forest id = none ↔ id ∉ ids forest) ∧
    ∀ after, delete? forest id = some after →
      ∃ gone : Element, gone.id = id ∧ TakesOut gone forest after ∧
        ((ids forest).Nodup →
          find? forest id = some gone ∧ ∀ x ∈ ids [gone], x ∉ ids after) := by
  refine ⟨delete?_eq_none, fun after hafter => ?_⟩
  obtain ⟨found, gone, gap, hfound, hgone, rfl, rfl, -, hclear, hdistinct⟩ := delete?_found hafter
  refine ⟨gone, hgone, gap.takesOut gone, fun hnodup => ?_⟩
  -- with distinct ids nothing of the element that is found stays, so that is the one that goes
  have hnone := hdistinct hnodup
  obtain ⟨rfl, -⟩ := hclear hnone
  exact ⟨hfound, hnone⟩

/-- A box with another box and an image in it, and a text behind it. -/
def shelf : Forest :=
  [((Element.new "a" .container).withChild ((Element.new "b" .container).withChild
    (.new "c" .text))).withChild (.new "d" .image), .new "e" .text]

theorem delete_takes_subtree_shelf :
    ∃ after, delete? shelf "b" = some after ∧ ids after = ["a", "d", "e"] ∧
      ∃ gone : Element, gone.id = "b" ∧ TakesOut gone shelf after ∧ (ids shelf).Nodup ∧
        find? shelf "b" = some gone ∧ ∀ x ∈ ids [gone], x ∉ ids after := by
  have hnodup : (ids shelf).Nodup := by decide +kernel
  have hids : (delete? shelf "b").map ids = some ["a", "d", "e"] := by decide +kernel
  obtain ⟨after, hafter, hleft⟩ := Option.map_eq_some_iff.1 hids
  obtain ⟨gone, hgone, htakes, hfound⟩ := (delete_takes_subtree shelf "b").2 after hafter
  exact ⟨after, hafter, hleft, gone, hgone, htakes, hnodup, hfound hnodup⟩

end Forest

end PageBuilder
