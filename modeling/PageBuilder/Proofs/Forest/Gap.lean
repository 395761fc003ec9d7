import PageBuilder.Proofs.Forest

/-!
Forests with a gap for one element. A forest with an id in it is such a gap filled with the first
element of the id. Searching finds this element, an edit fills the same gap with another one, and
deleting closes a gap that an element of the id has filled.
-/

namespace PageBuilder

namespace Forest

theorem mem_ids {forest : Forest} {id : String} :
    id ∈ ids forest ↔ ∃ n ∈ nodes forest, n.id = id := by
  rw [ids_eq, List.mem_map]

theorem ids_singleton (e : Element) : ids [e] = e.id :: ids e.children := by
  rw [ids_eq, nodes_cons, nodes_nil, List.append_nil, Element.nodes_ids]

end Forest

/-- A forest with a gap, among the siblings of its top level or somewhere below one of them. -/
inductive Gap where
  | among (left right : Forest)
  | inside (left : Forest) (node : Node) (inner : Gap) (right : Forest)

namespace Gap

/-- The forest with an element in the gap. -/
def fill (e : Element) : Gap → Forest
  | among left right => left ++ e :: right
  | inside left node inner right => left ++ .mk node (inner.fill e) :: right

/-- The forest with nothing in the gap. -/
def close : Gap → Forest
  | among left right => left ++ right
  | inside left node inner right => left ++ .mk node inner.close :: right

/-- The nodes that come before the gap in preorder. -/
def ahead : Gap → List Node
  | among left _ => Forest.nodes left
  | inside left node inner _ => Forest.nodes left ++ node :: inner.ahead

/-- The nodes that come after the gap in preorder. -/
def behind : Gap → List Node
  | among _ right => Forest.nodes right
  | inside _ _ inner right => inner.behind ++ Forest.nodes right

/-- The same gap with one more sibling in front of the top level. -/
def push (e : Element) : Gap → Gap
  | among left right => among (e :: left) right
  | inside left node inner right => inside (e :: left) node inner right

/-- No element before the gap has the id. -/
def FirstOf (p : Gap) (id : String) : Prop := ∀ n ∈ p.ahead, n.id ≠ id

variable (p : Gap) (e : Element)

@[simp] theorem fill_push (first : Element) : (p.push first).fill e = first :: p.fill e := by
  cases p <;> rfl

@[simp] theorem close_push : (p.push e).close = e :: p.close := by
  cases p <;> rfl

theorem ahead_push : (p.push e).ahead = e.nodes ++ p.ahead := by
  cases p <;> simp [push, ahead, Forest.nodes_cons]

theorem nodes_fill : Forest.nodes (p.fill e) = p.ahead ++ e.nodes ++ p.behind := by
  induction p with
  | among left right => simp [fill, ahead, behind, Forest.nodes_append, Forest.nodes_cons]
  | inside left node inner right ih =>
    simp [fill, ahead, behind, Forest.nodes_append, Forest.nodes_cons, Element.nodes_mk, ih]

theorem nodes_close : Forest.nodes p.close = p.ahead ++ p.behind := by
  induction p with
  | among left right => simp [close, ahead, behind, Forest.nodes_append]
  | inside left node inner right ih =>
    simp [close, ahead, behind, Forest.nodes_append, Forest.nodes_cons, Element.nodes_mk, ih]

variable {p e}

theorem mem_ids_fill {id : String} :
    id ∈ Forest.ids (p.fill e) ↔ id ∈ Forest.ids [e] ∨ id ∈ Forest.ids p.close := by
  simp only [Forest.ids_eq, nodes_fill, nodes_close, Forest.nodes_cons, Forest.nodes_nil,
    List.append_nil, List.map_append, List.mem_append]
  tauto

theorem nodup_ids_fill (h : (Forest.ids (p.fill e)).Nodup) :
    ∀ id ∈ Forest.ids [e], id ∉ Forest.ids p.close := by
  have hperm : (Forest.ids (p.fill e)).Perm (Forest.ids [e] ++ Forest.ids p.close) := by
    simp only [Forest.ids_eq, nodes_fill, nodes_close, Forest.nodes_cons, Forest.nodes_nil,
      List.append_nil, List.map_append]
    rw [List.append_assoc]
    exact List.perm_append_comm_assoc ..
  exact fun id hmem hclose =>
    (List.nodup_append.1 (hperm.nodup_iff.1 h)).2.2 id hmem id hclose rfl

theorem firstOf_of_not_mem_close {id : String} (h : id ∉ Forest.ids p.close) : p.FirstOf id := by
  intro n hn hid
  apply h
  rw [Forest.mem_ids, nodes_close]
  exact ⟨n, List.mem_append_left _ hn, hid⟩

end Gap

mutual

theorem Element.exists_gap {id : String} (e : Element) (h : ∃ n ∈ e.nodes, n.id = id) :
    e.id = id ∨ e.id ≠ id ∧ ∃ (p : Gap) (target : Element), target.id = id ∧ p.FirstOf id ∧
      e.children = p.fill target := by
  cases e with
  | mk node children =>
    by_cases hnode : node.id = id
    · exact Or.inl hnode
    · refine Or.inr ⟨hnode, Forest.exists_gap children ?_⟩
      simpa [Element.nodes_mk, hnode] using h

/-- A forest with an id in it is a gap filled with the first element of the id. -/
theorem Forest.exists_gap {id : String} (forest : Forest)
    (h : ∃ n ∈ Forest.nodes forest, n.id = id) :
    ∃ (p : Gap) (target : Element), target.id = id ∧ p.FirstOf id ∧
      forest = p.fill target := by
  cases forest with
  | nil => simp [Forest.nodes_nil] at h
  | cons e rest =>
    by_cases he : ∃ n ∈ e.nodes, n.id = id
    · rcases Element.exists_gap e he with hid | ⟨hid, p, target, htarget, hfirst, hfill⟩
      · exact ⟨.among [] rest, e, hid, by simp [Gap.FirstOf, Gap.ahead, Forest.nodes_nil], rfl⟩
      · refine ⟨.inside [] e.node p rest, target, htarget, ?_, ?_⟩
        · simp only [Gap.FirstOf, Gap.ahead, Forest.nodes_nil, List.nil_append,
            List.forall_mem_cons]
          exact ⟨hid, hfirst⟩
        · cases e with
          | mk node children => rw [Gap.fill, ← hfill]; rfl
    · -- the first element is passed over as a whole
      have hrest : ∃ n ∈ Forest.nodes rest, n.id = id := by
        obtain ⟨n, hn, hid⟩ := h
        rw [Forest.nodes_cons, List.mem_append] at hn
        exact ⟨n, hn.resolve_left fun hmem => he ⟨n, hmem, hid⟩, hid⟩
      obtain ⟨p, target, htarget, hfirst, hfill⟩ := Forest.exists_gap rest hrest
      refine ⟨p.push e, target, htarget, ?_, by rw [Gap.fill_push, ← hfill]⟩
      rw [Gap.FirstOf, Gap.ahead_push, List.forall_mem_append]
      exact ⟨fun n hn hid => he ⟨n, hn, hid⟩, hfirst⟩

end

section Search

variable {id : String}

/-- What stands before the first element of an id does not matter to a search. -/
theorem Forest.find?_append {left : Forest} (h : ∀ n ∈ Forest.nodes left, n.id ≠ id)
    (right : Forest) : Forest.find? (left ++ right) id = Forest.find? right id := by
  have hleft : (Forest.preorder left).find? (fun x => x.id == id) = none := by
    rw [List.find?_eq_none]
    intro x hx
    have hne : x.id ≠ id := h x.node (List.mem_map_of_mem hx)
    simpa using hne
  unfold Forest.find?
  rw [Forest.preorder_append, List.find?_append, hleft, Option.none_or]

theorem Forest.find?_cons (node : Node) (children rest : Forest) :
    Forest.find? (.mk node children :: rest) id =
      if node.id = id then some (.mk node children)
      else (Forest.find? children id).or (Forest.find? rest id) := by
  unfold Forest.find?
  rw [Forest.preorder, Element.preorder, List.cons_append, List.find?_cons]
  by_cases hnode : node.id = id
  · rw [if_pos hnode, show ((Element.mk node children).id == id) = true from beq_iff_eq.2 hnode]
  · rw [if_neg hnode, show ((Element.mk node children).id == id) = false from
      beq_false_of_ne hnode, List.find?_append]

/-- A search finds the element in the gap, if no earlier one has its id. -/
theorem Gap.find?_fill {p : Gap} (hfirst : p.FirstOf id) {e : Element} (he : e.id = id) :
    Forest.find? (p.fill e) id = some e := by
  induction p with
  | among left right =>
    cases e with
    | mk node children =>
      have hnode : node.id = id := he
      rw [Gap.fill, Forest.find?_append hfirst, Forest.find?_cons, if_pos hnode]
  | inside left node inner right ih =>
    rw [Gap.FirstOf, Gap.ahead, List.forall_mem_append, List.forall_mem_cons] at hfirst
    obtain ⟨hleft, hnode, hinner⟩ := hfirst
    rw [Gap.fill, Forest.find?_append hleft, Forest.find?_cons, if_neg hnode, ih hinner,
      Option.some_or]

end Search

section Replacing

variable {id : String} {f : Element → Element}

mutual

theorem Element.replaceFirst?_eq_none (e : Element) :
    e.replaceFirst? id f = none ↔ ∀ n ∈ e.nodes, n.id ≠ id := by
  cases e with
  | mk node children =>
    rw [Element.replaceFirst?, Element.nodes_mk, List.forall_mem_cons]
    by_cases hnode : node.id = id
    · simp [hnode]
    · simp [hnode, Forest.replaceFirst?_eq_none children]

/-- An edit misses exactly if no element has the id. -/
theorem Forest.replaceFirst?_eq_none (forest : Forest) :
    Forest.replaceFirst? id f forest = none ↔ ∀ n ∈ Forest.nodes forest, n.id ≠ id := by
  cases forest with
  | nil => simp [Forest.replaceFirst?, Forest.nodes_nil]
  | cons e rest =>
    rw [Forest.replaceFirst?, Forest.nodes_cons, List.forall_mem_append,
      ← Element.replaceFirst?_eq_none e, ← Forest.replaceFirst?_eq_none rest]
    cases e.replaceFirst? id f <;> simp

end

theorem Forest.replaceFirst?_append {left : Forest} (h : ∀ n ∈ Forest.nodes left, n.id ≠ id)
    (right : Forest) :
    Forest.replaceFirst? id f (left ++ right) =
      (Forest.replaceFirst? id f right).map (left ++ ·) := by
  induction left with
  | nil => simp
  | cons e rest ih =>
    rw [Forest.nodes_cons, List.forall_mem_append] at h
    rw [List.cons_append, Forest.replaceFirst?, (Element.replaceFirst?_eq_none e).2 h.1]
    simp only [ih h.2, Option.map_map]
    rfl

/-- An edit fills the gap of the first element of the id with the edited one. -/
theorem Gap.replaceFirst?_fill {p : Gap} (hfirst : p.FirstOf id) {e : Element}
    (he : e.id = id) : Forest.replaceFirst? id f (p.fill e) = some (p.fill (f e)) := by
  induction p with
  | among left right =>
    cases e with
    | mk node children =>
      have hnode : node.id = id := he
      rw [Gap.fill, Forest.replaceFirst?_append hfirst, Forest.replaceFirst?,
        Element.replaceFirst?, if_pos hnode]
      rfl
  | inside left node inner right ih =>
    rw [Gap.FirstOf, Gap.ahead, List.forall_mem_append, List.forall_mem_cons] at hfirst
    obtain ⟨hleft, hnode, hinner⟩ := hfirst
    rw [Gap.fill, Forest.replaceFirst?_append hleft, Forest.replaceFirst?,
      Element.replaceFirst?, if_neg hnode, ih hinner]
    rfl

/-- An edit that does not miss fills the gap of the first element of the id. -/
theorem Forest.replaceFirst?_gap {forest after : Forest}
    (h : Forest.replaceFirst? id f forest = some after) :
    ∃ p target, target.id = id ∧ Gap.FirstOf p id ∧ forest = p.fill target ∧
      after = p.fill (f target) := by
  have hmem : ∃ n ∈ Forest.nodes forest, n.id = id := by
    by_contra hnone
    have hmissed : Forest.replaceFirst? id f forest = none :=
      (Forest.replaceFirst?_eq_none forest).2 fun n hn hid => hnone ⟨n, hn, hid⟩
    rw [hmissed] at h
    cases h
  obtain ⟨p, target, hid, hfirst, rfl⟩ := Forest.exists_gap forest hmem
  rw [Gap.replaceFirst?_fill hfirst hid] at h
  exact ⟨p, target, hid, hfirst, rfl, (Option.some.inj h).symm⟩

end Replacing

section Deleting

variable {id : String}

/-- Dropping a sibling closes its gap. -/
theorem Forest.dropTop?_gap {forest after : Forest} (h : dropTop? id forest = some after) :
    ∃ p gone, gone.id = id ∧ forest = Gap.fill gone p ∧ after = p.close := by
  unfold dropTop? at h
  split at h
  · next hany =>
    cases h
    obtain ⟨e, he, hid⟩ := List.any_eq_true.1 hany
    obtain ⟨gone, left, right, -, hgone, hforest, hafter⟩ :=
      List.exists_of_eraseP (p := fun x => x.id == id) he hid
    exact ⟨.among left right, gone, by simpa using hgone, hforest, hafter⟩
  · cases h

mutual

theorem Element.deleteBelow?_gap (e : Element) {after : Element}
    (h : e.deleteBelow? id = some after) :
    ∃ p gone, gone.id = id ∧ e.children = Gap.fill gone p ∧ after = .mk e.node p.close := by
  cases e with
  | mk node children =>
    rw [Element.deleteBelow?] at h
    split at h
    · -- one of the children goes, before any of them is searched
      next htop =>
      cases h
      obtain ⟨p, gone, hid, hfill, rfl⟩ := Forest.dropTop?_gap htop
      exact ⟨p, gone, hid, hfill, rfl⟩
    · obtain ⟨others, hothers, rfl⟩ := Option.map_eq_some_iff.1 h
      obtain ⟨p, gone, hid, hfill, rfl⟩ := Forest.deleteBelow?_gap children hothers
      exact ⟨p, gone, hid, hfill, rfl⟩

theorem Forest.deleteBelow?_gap (forest : Forest) {after : Forest}
    (h : Forest.deleteBelow? id forest = some after) :
    ∃ p gone, gone.id = id ∧ forest = Gap.fill gone p ∧ after = p.close := by
  cases forest with
  | nil => simp [Forest.deleteBelow?] at h
  | cons e rest =>
    rw [Forest.deleteBelow?] at h
    split at h
    · next he =>
      cases h
      obtain ⟨p, gone, hid, hfill, rfl⟩ := Element.deleteBelow?_gap e he
      refine ⟨.inside [] e.node p rest, gone, hid, ?_, rfl⟩
      cases e with
      | mk node children => rw [Gap.fill, ← hfill]; rfl
    · obtain ⟨others, hothers, rfl⟩ := Option.map_eq_some_iff.1 h
      obtain ⟨p, gone, hid, rfl, rfl⟩ := Forest.deleteBelow?_gap rest hothers
      exact ⟨p.push e, gone, hid, by simp, by simp⟩

end

/-- Deleting takes an element of the id out of its gap and leaves all else as it is. -/
theorem Forest.delete?_gap {forest after : Forest} (h : Forest.delete? forest id = some after) :
    ∃ p gone, gone.id = id ∧ forest = Gap.fill gone p ∧ after = p.close := by
  unfold Forest.delete? at h
  split at h
  · next htop =>
    cases h
    exact Forest.dropTop?_gap htop
  · exact Forest.deleteBelow?_gap forest h

/-- Deleting takes out an element of the id, but not always the one that a search finds. It is that
one if no id below it is left, and then the ids that are gone are those below it. -/
theorem Forest.delete?_found {forest after : Forest}
    (h : Forest.delete? forest id = some after) :
    ∃ (found gone : Element) (gap : Gap),
      Forest.find? forest id = some found ∧ gone.id = id ∧
      forest = gap.fill gone ∧ after = gap.close ∧
      (∀ x ∈ Forest.ids [found], x ∈ Forest.ids forest) ∧
      ((∀ x ∈ Forest.ids [found], x ∉ Forest.ids after) → found = gone ∧
        ∀ x ∈ Forest.ids forest, (x ∈ Forest.ids [found] ↔ x ∉ Forest.ids after)) ∧
      ((Forest.ids forest).Nodup → ∀ x ∈ Forest.ids [found], x ∉ Forest.ids after) := by
  obtain ⟨gap, gone, hgone, rfl, rfl⟩ := Forest.delete?_gap h
  have hself (e : Element) : e.id ∈ Forest.ids [e] := by
    rw [Forest.ids_singleton]
    exact List.mem_cons_self ..
  have hmem : id ∈ Forest.ids (gap.fill gone) :=
    Gap.mem_ids_fill.2 (Or.inl (hgone ▸ hself gone))
  obtain ⟨first, found, hid, hfirst, hforest⟩ := Forest.exists_gap _ (Forest.mem_ids.1 hmem)
  have hfound : Forest.find? (gap.fill gone) id = some found := by
    rw [hforest, Gap.find?_fill hfirst hid]
  -- an element whose id is not left behind is the first of its id
  have hsame (hleft : id ∉ Forest.ids gap.close) : found = gone := by
    rw [Gap.find?_fill (Gap.firstOf_of_not_mem_close hleft) hgone] at hfound
    exact (Option.some.inj hfound).symm
  refine ⟨found, gone, gap, hfound, hgone, rfl, rfl, ?_, ?_, ?_⟩
  · intro x hx
    rw [hforest]
    exact Gap.mem_ids_fill.2 (Or.inl hx)
  · intro hclear
    obtain rfl := hsame (hclear id (hid ▸ hself found))
    refine ⟨rfl, fun x hx => ⟨hclear x, fun hleft => ?_⟩⟩
    exact (Gap.mem_ids_fill.1 hx).resolve_right hleft
  · intro hnodup
    have hclear := Gap.nodup_ids_fill hnodup
    rw [hsame (hclear id (hgone ▸ hself gone))]
    exact hclear

end Deleting

/-- The nodes of one element with the id are exchanged for other nodes, and the rest stays. -/
def Exchanged (id : String) (f : Element → List Node) (before after : List Node) : Prop :=
  ∃ target : Element, target.id = id ∧ Splices target.nodes (f target) before after

namespace Forest

variable {forest after : Forest} {id : String}

/-- Replacing an element exchanges its nodes. -/
theorem replaceFirst?_nodes {f : Element → Element}
    (h : Forest.replaceFirst? id f forest = some after) :
    Exchanged id (fun target => (f target).nodes) (nodes forest) (nodes after) := by
  obtain ⟨p, target, hid, -, rfl, rfl⟩ := replaceFirst?_gap h
  exact ⟨target, hid, p.ahead, p.behind, p.nodes_fill _, p.nodes_fill _⟩

/-- Deleting an element takes its nodes away. -/
theorem delete?_nodes (h : delete? forest id = some after) :
    Exchanged id (fun _ => []) (nodes forest) (nodes after) := by
  obtain ⟨p, gone, hid, rfl, rfl⟩ := delete?_gap h
  refine ⟨gone, hid, p.ahead, p.behind, p.nodes_fill _, ?_⟩
  rw [p.nodes_close, List.append_nil]

end Forest

end PageBuilder
