import PageBuilder.Proofs.Forest
import Mathlib.Data.List.Perm.Subperm

/-!
Another order of the top level. It is taken exactly if it names the siblings that are there, each id
as often as it is there. The siblings then stand in the named order, those of one id among
themselves as before.
-/

namespace PageBuilder

namespace Forest

/-- The siblings that have an id, in their order. -/
def namesakes (siblings : List Element) (id : String) : List Element :=
  siblings.filter fun e => e.id == id

variable {order : List String} {pool picked : List Element} {id : String} {e : Element}

/-- The first sibling of an id stands behind siblings of other ids, and taking it away leaves all
others in their order. -/
theorem find?_splits (h : (pool.find? fun x => x.id == id) = some e) :
    e.id = id ∧ ∃ front back, pool = front ++ e :: back ∧
      (pool.eraseP fun x => x.id == id) = front ++ back ∧ namesakes front id = [] := by
  obtain ⟨hid, front, back, rfl, hfront⟩ := List.find?_eq_some_iff_append.1 h
  have hother : ∀ x ∈ front, ¬ (x.id == id) = true := by
    intro x hx
    simpa using hfront x hx
  refine ⟨beq_iff_eq.1 hid, front, back, rfl, ?_, List.filter_eq_nil_iff.2 hother⟩
  rw [List.eraseP_append_right _ hother, List.eraseP_cons_of_pos (p := fun x : Element => x.id == id) hid]

/-- Taking the first sibling of an id away takes it from the front of its namesakes. -/
theorem namesakes_eraseP (h : (pool.find? fun x => x.id == id) = some e) (x : String) :
    namesakes pool x = namesakes [e] x ++ namesakes (pool.eraseP fun x => x.id == id) x := by
  obtain ⟨hid, front, back, rfl, hrest, hfront⟩ := find?_splits h
  rw [hrest]
  simp only [namesakes, List.filter_append, List.filter_cons, List.filter_nil]
  by_cases hx : x = id
  · -- nothing of the id stands in front of the first sibling that has it
    subst hx
    have hnone : front.filter (fun e => e.id == x) = [] := hfront
    simp [hnone, hid]
  · have hne : (e.id == x) = false := by
      rw [hid]
      exact beq_false_of_ne (Ne.symm hx)
    simp [hne]

theorem eraseP_perm (h : (pool.find? fun x => x.id == id) = some e) :
    (e :: pool.eraseP fun x => x.id == id).Perm pool := by
  obtain ⟨-, front, back, rfl, hrest, -⟩ := find?_splits h
  rw [hrest]
  exact List.perm_middle.symm

/-- Picking takes siblings with the named ids in the named order. What is left makes up the pool
together with them, and of each id the first ones are picked. -/
theorem pick?_spec (h : pick? order pool = some picked) :
    picked.map Element.id = order ∧
      ∃ left, (picked ++ left).Perm pool ∧
        ∀ x, namesakes pool x = namesakes picked x ++ namesakes left x := by
  induction order generalizing pool picked with
  | nil =>
    cases h
    exact ⟨rfl, pool, List.Perm.refl _, fun _ => rfl⟩
  | cons id rest ih =>
    rw [pick?] at h
    split at h
    · cases h
    · next e he =>
      obtain ⟨others, hothers, rfl⟩ := Option.map_eq_some_iff.1 h
      obtain ⟨hids, left, hperm, hsame⟩ := ih hothers
      have hid : e.id = id := (find?_splits he).1
      refine ⟨by rw [List.map_cons, hids, hid], left, ?_, fun x => ?_⟩
      · exact (hperm.cons e).trans (eraseP_perm he)
      · -- the picked sibling comes before all that are picked or left later
        have hcons : namesakes (e :: others) x = namesakes [e] x ++ namesakes others x :=
          List.filter_append [e] others
        rw [namesakes_eraseP he, hsame x, hcons, List.append_assoc]

/-- Picking succeeds exactly if the pool has every id as often as it is named. -/
theorem pick?_isSome_iff :
    (∃ picked, pick? order pool = some picked) ↔ order.Subperm (pool.map Element.id) := by
  induction order generalizing pool with
  | nil => exact iff_of_true ⟨[], rfl⟩ List.nil_subperm
  | cons id rest ih =>
    rw [pick?]
    cases hfind : pool.find? fun e => e.id == id with
    | none =>
      refine iff_of_false (by simp) fun hsub => ?_
      obtain ⟨e, he, hid⟩ := List.mem_map.1 (hsub.subset (List.mem_cons_self ..))
      exact List.find?_eq_none.1 hfind e he (beq_iff_eq.2 hid)
    | some e =>
      have hids : (id :: (pool.eraseP fun e => e.id == id).map Element.id).Perm
          (pool.map Element.id) := by
        have hperm := (eraseP_perm hfind).map Element.id
        rwa [List.map_cons, (find?_splits hfind).1] at hperm
      have hrest : (∃ picked, pick? rest (pool.eraseP fun e => e.id == id) = some picked) ↔
          (id :: rest).Subperm (pool.map Element.id) := by
        rw [ih, ← hids.subperm_left, List.subperm_cons]
      rw [← hrest]
      simp

/-- An order is taken exactly if it names the ids of the top level, each as often as it is there. -/
theorem reorder?_isSome_iff {forest order : Forest} :
    (∃ after, reorder? forest order = some after) ↔
      (order.map Element.id).Perm (forest.map Element.id) := by
  unfold reorder?
  by_cases hlength : order.length = forest.length
  · rw [if_pos hlength, pick?_isSome_iff]
    have hsame : (forest.map Element.id).length ≤ (order.map Element.id).length := by
      simp [hlength]
    exact ⟨fun hsub => hsub.perm_of_length_le hsame, List.Perm.subperm⟩
  · rw [if_neg hlength]
    refine iff_of_false (by simp) fun hperm => hlength ?_
    simpa using hperm.length_eq

/-- An order that is taken moves the siblings around as they are. -/
theorem reorder?_spec {forest order after : Forest} (h : reorder? forest order = some after) :
    List.Perm after forest ∧ after.map Element.id = order.map Element.id ∧
      ∀ x, namesakes after x = namesakes forest x := by
  unfold reorder? at h
  split at h
  · next hlength =>
    obtain ⟨hids, left, hperm, hsame⟩ := pick?_spec h
    -- there are as many picked siblings as there are siblings, so none is left
    have hcount : after.length = forest.length := by
      rw [← hlength, ← List.length_map Element.id, hids, List.length_map]
    have hleft : left = [] := by
      have htotal := hperm.length_eq
      rw [List.length_append] at htotal
      exact List.length_eq_zero_iff.1 (by omega)
    subst hleft
    rw [List.append_nil] at hperm
    refine ⟨hperm, hids, fun x => ?_⟩
    rw [hsame x]
    exact (List.append_nil _).symm
  · cases h

theorem nodes_perm {first second : Forest} (h : List.Perm first second) :
    (nodes first).Perm (nodes second) := by
  have hflat (forest : Forest) : nodes forest = forest.flatMap Element.nodes := by
    induction forest with
    | nil => rw [nodes_nil, List.flatMap_nil]
    | cons e rest ih => rw [nodes_cons, ih, List.flatMap_cons]
  rw [hflat first, hflat second]
  exact h.flatMap_right _

/-- Another order of the top level moves blocks of nodes around. -/
theorem reorder?_nodes {forest order after : Forest} (h : reorder? forest order = some after) :
    (nodes after).Perm (nodes forest) := nodes_perm (reorder?_spec h).1

end Forest

end PageBuilder
