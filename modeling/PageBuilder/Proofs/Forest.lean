import PageBuilder.Forest
import PageBuilder.Proofs.Numbering

/-!
Forests through their nodes in preorder. A copy with new ids takes them from its source in that order,
one for each element.
-/

namespace PageBuilder

/-- Two lists agree except for a block, which is `old` in the first and `new` in the second. -/
def Splices {α : Type} (old new before after : List α) : Prop :=
  ∃ front back, before = front ++ old ++ back ∧ after = front ++ new ++ back

namespace Splices

variable {α β : Type} {old new before after : List α}

theorem append_left (front : List α) (h : Splices old new before after) :
    Splices old new (front ++ before) (front ++ after) := by
  obtain ⟨first, back, rfl, rfl⟩ := h
  exact ⟨front ++ first, back, by simp, by simp⟩

theorem append_right (back : List α) (h : Splices old new before after) :
    Splices old new (before ++ back) (after ++ back) := by
  obtain ⟨front, last, rfl, rfl⟩ := h
  exact ⟨front, last ++ back, by simp, by simp⟩

theorem map (f : α → β) (h : Splices old new before after) :
    Splices (old.map f) (new.map f) (before.map f) (after.map f) := by
  obtain ⟨front, back, rfl, rfl⟩ := h
  exact ⟨front.map f, back.map f, by simp, by simp⟩

/-- What the exchange takes away and what it brings in balance. -/
theorem count_eq [DecidableEq α] (h : Splices old new before after) (x : α) :
    after.count x + old.count x = before.count x + new.count x := by
  obtain ⟨front, back, rfl, rfl⟩ := h
  simp only [List.count_append]
  omega

theorem subset (h : Splices old new before after) : new ⊆ after := by
  obtain ⟨front, back, rfl, rfl⟩ := h
  intro x hx
  simp [hx]

end Splices

/-- The data of an element and of everything below it, from the top and from left to right. -/
def Element.nodes (e : Element) : List Node := e.preorder.map Element.node

/-- The data of all elements of a forest, from the top and from left to right. -/
def Forest.nodes (forest : Forest) : List Node := (Forest.preorder forest).map Element.node

theorem Element.nodes_mk (node : Node) (children : Forest) :
    (Element.mk node children).nodes = node :: Forest.nodes children := by
  simp [Element.nodes, Element.preorder, Forest.nodes, Element.node]

theorem Element.nodes_eq (e : Element) : e.nodes = e.node :: Forest.nodes e.children := by
  cases e with
  | mk node children => exact Element.nodes_mk node children

namespace Forest

theorem nodes_nil : nodes [] = [] := by
  simp [nodes, Forest.preorder]

theorem nodes_cons (e : Element) (rest : Forest) : nodes (e :: rest) = e.nodes ++ nodes rest := by
  simp [nodes, Forest.preorder, Element.nodes]

theorem nodes_append (first second : Forest) :
    nodes (first ++ second) = nodes first ++ nodes second := by
  induction first with
  | nil => simp [nodes_nil]
  | cons e rest ih => simp only [List.cons_append, nodes_cons, ih, List.append_assoc]

theorem preorder_append (first second : Forest) :
    Forest.preorder (first ++ second) = Forest.preorder first ++ Forest.preorder second := by
  induction first with
  | nil => rfl
  | cons e rest ih => simp only [List.cons_append, Forest.preorder, ih, List.append_assoc]

/-- An element at the end is found under its id, unless an earlier element has it. -/
theorem find?_concat (forest : Forest) (e : Element) :
    find? (forest ++ [e]) e.id = (find? forest e.id).or (some e) := by
  have hfirst : (Forest.preorder [e]).find? (fun x => x.id == e.id) = some e := by
    cases e with
    | mk node children => simp [Forest.preorder, Element.preorder]
  unfold find?
  rw [preorder_append, List.find?_append, hfirst]

theorem ids_eq (forest : Forest) : ids forest = (nodes forest).map Node.id := by
  unfold ids nodes
  rw [List.map_map]
  rfl

theorem count_eq (forest : Forest) : count forest = (nodes forest).length := by
  rw [count, nodes, List.length_map]

theorem ids_append (first second : Forest) : ids (first ++ second) = ids first ++ ids second := by
  simp only [ids_eq, nodes_append, List.map_append]

end Forest

/-- The ids of an element and of everything below it. -/
theorem Element.nodes_ids (e : Element) :
    e.nodes.map Node.id = e.id :: Forest.ids e.children := by
  rw [Element.nodes_eq, List.map_cons, Forest.ids_eq]
  rfl

mutual

theorem Element.withFreshIds_cycle (s : IdSource) (e : Element) :
    (e.withFreshIds s).1.nodes.map Node.id = s.cycle e.nodes.length ∧
      s.Advances e.nodes.length (e.withFreshIds s).2 := by
  cases e with
  | mk node children =>
    have hnext := IdSource.Advances.next s
    obtain ⟨hids, hsource⟩ := Forest.withFreshIds_cycle s.next.2 children
    simp only [Element.withFreshIds, Element.nodes_mk, List.map_cons, List.length_cons, hids]
    rw [Nat.add_comm (Forest.nodes children).length 1]
    refine ⟨?_, hnext.trans hsource⟩
    -- the element takes the first number, and those below it take the following ones
    rw [hnext.cycle_add]
    rfl

/-- A copy with new ids takes them from its source in preorder, one for each element. -/
theorem Forest.withFreshIds_cycle (s : IdSource) (forest : Forest) :
    (Forest.nodes (Forest.withFreshIds s forest).1).map Node.id =
        s.cycle (Forest.nodes forest).length ∧
      s.Advances (Forest.nodes forest).length (Forest.withFreshIds s forest).2 := by
  cases forest with
  | nil => exact ⟨rfl, .nothing s⟩
  | cons e rest =>
    obtain ⟨hids, hsource⟩ := Element.withFreshIds_cycle s e
    obtain ⟨hrestIds, hrestSource⟩ := Forest.withFreshIds_cycle (e.withFreshIds s).2 rest
    simp only [Forest.withFreshIds, Forest.nodes_cons, List.map_append, List.length_append, hids,
      hrestIds]
    exact ⟨(hsource.cycle_add _).symm, hsource.trans hrestSource⟩

end

namespace Forest

/-- A copy with new ids has as many elements. -/
theorem withFreshIds_length (s : IdSource) (forest : Forest) :
    (Forest.nodes (Forest.withFreshIds s forest).1).length = (Forest.nodes forest).length := by
  have hids := congrArg List.length (Forest.withFreshIds_cycle s forest).1
  rwa [List.length_map, IdSource.length_cycle] at hids

/-- As long as the numbers last, the ids of a copy are the next ones of its source. -/
theorem withFreshIds_upcoming (s : IdSource) (forest : Forest)
    (hroom : s.issued + (Forest.nodes forest).length < wordLimit) :
    (Forest.nodes (Forest.withFreshIds s forest).1).map Node.id =
        s.upcoming (Forest.nodes forest).length ∧
      (Forest.withFreshIds s forest).2 = s.skip (Forest.nodes forest).length := by
  obtain ⟨hids, hsource⟩ := Forest.withFreshIds_cycle s forest
  rw [IdSource.cycle_eq_upcoming hroom] at hids
  exact ⟨hids, hsource.eq_skip hroom⟩

end Forest

end PageBuilder
