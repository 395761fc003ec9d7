import PageBuilder.Proofs.Editor.Linearity
import PageBuilder.Proofs.Forest.Order

/-!
Orders of the top level as commands. An update of the reserved id is the command for another order
under another name.
-/

namespace PageBuilder.Editor

variable (e : Editor) (now : Int)

/-- The name of a change is kept in the history and nowhere else. -/
theorem commitForest_named (first second : String) (result : Option Forest) :
    let one := e.commitForest first result
    let other := e.commitForest second result
    one.1 = other.1 ∧ one.2.state = other.2.state ∧ one.2.timeline = other.2.timeline ∧
      one.2.ids = other.2.ids ∧ one.2.guard = other.2.guard := by
  cases result with
  | none => exact ⟨rfl, rfl, rfl, rfl, rfl⟩
  | some forest =>
    refine ⟨rfl, rfl, ?_, rfl, rfl⟩
    simp only [commitForest, commit, timeline, History.timeline_push]

/-- An order of the top level is taken exactly if its ids are those of the top level, each as often as
it is there. Then the siblings themselves stand in the order of its ids, those of one id among
themselves as before. An update of the reserved id whose patch has the order as children answers like
the command for it and leaves the same editor, up to the name of the change in the history. -/
theorem reorder_takes_permutations (forest order : Forest) :
    ((∃ after, Forest.reorder? forest order = some after) ↔
      (order.map Element.id).Perm (forest.map Element.id)) ∧
    (∀ after, Forest.reorder? forest order = some after →
      List.Perm after forest ∧ after.map Element.id = order.map Element.id ∧
        ∀ id, Forest.namesakes after id = Forest.namesakes forest id) ∧
    ∀ (e : Editor) (now : Int) (patch : Patch),
      let asked := e.step now (.reorderElements order)
      let patched := e.step now (.updateElement reorderId { patch with children := some order })
      patched.1 = asked.1 ∧ patched.2.state = asked.2.state ∧
        patched.2.timeline = asked.2.timeline ∧ patched.2.ids = asked.2.ids ∧
        patched.2.guard = asked.2.guard := by
  refine ⟨Forest.reorder?_isSome_iff, fun after h => Forest.reorder?_spec h, fun e now patch => ?_⟩
  have hupdate : Forest.update? e.state.elements reorderId { patch with children := some order } =
      Forest.reorder? e.state.elements order := if_pos rfl
  obtain ⟨houtcome, hrest⟩ := e.commitForest_named "Update element" "Reorder elements"
    (Forest.reorder? e.state.elements order)
  simp only [step, hupdate]
  exact ⟨congrArg Except.ok houtcome, hrest⟩

/-- Three siblings, two of them with one id. -/
def namesakesApart : Forest := [.new "a" .text, .new "b" .text, .new "a" .image]

theorem reorder_takes_permutations_namesakes :
    let order : Forest := [.new "b" .button, .new "a" .button, .new "a" .button]
    ∃ after, Forest.reorder? namesakesApart order = some after ∧
      after.map (fun e => (e.id, e.type)) = [("b", .text), ("a", .text), ("a", .image)] ∧
      List.Perm after namesakesApart ∧ after.map Element.id = order.map Element.id ∧
      ∀ id, Forest.namesakes after id = Forest.namesakes namesakesApart id := by
  intro order
  have htypes : (Forest.reorder? namesakesApart order).map
      (fun after => after.map fun e => (e.id, e.type)) =
        some [("b", .text), ("a", .text), ("a", .image)] := by
    decide +kernel
  obtain ⟨after, hafter, hkept⟩ := Option.map_eq_some_iff.1 htypes
  exact ⟨after, hafter, hkept, (reorder_takes_permutations namesakesApart order).2.1 after hafter⟩

end PageBuilder.Editor
