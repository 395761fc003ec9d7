import PageBuilder.Proofs.Editor.OpenSection
import PageBuilder.Proofs.Forest.Edits

/-!
The selection when an element is deleted. It is dropped if it names a node of the element that a
search finds, while deleting takes out an element that it looks for in another order. The two
elements are the same unless their id is there twice.
-/

namespace PageBuilder

theorem Forest.hasId_iff {forest : Forest} {id : String} :
    Forest.hasId forest id = true ↔ id ∈ Forest.ids forest := by
  unfold Forest.hasId Forest.find? Forest.ids
  rw [List.find?_isSome, List.mem_map]
  simp

/-- What is left of the selection when the open section's forest becomes `after`: one that named an
element stays as long as some element has its id, and one that named none stays. -/
def EditorState.selectionIn (s : EditorState) (after : Forest) : Option String :=
  s.selected.filter fun selected =>
    decide (selected ∈ Forest.ids s.elements → selected ∈ Forest.ids after)

namespace Editor

open EditorState

/-- The session with another selection. -/
def select (e : Editor) (selected : Option String) : Editor :=
  { e with state := { e.state with selected := selected } }

variable {e : Editor} {now : Int} {id : String}

theorem deletesSelection_iff {s : EditorState} {found : Element}
    (hfound : Forest.find? s.elements id = some found) :
    deletesSelection s id = true ↔ ∃ x, s.selected = some x ∧ x ∈ Forest.ids [found] := by
  unfold deletesSelection
  rw [hfound]
  cases s.selected with
  | none => simp
  | some x =>
    have hin : x ∈ Forest.ids [found] ↔ found.id = x ∨ x ∈ Forest.ids found.children := by
      rw [Forest.ids_singleton, List.mem_cons, eq_comm]
    simp [hin, Forest.hasId_iff]

theorem deleteElement_applied_iff :
    (e.step now (.deleteElement id)).1 = .ok .applied ↔
      ∃ after, Forest.delete? e.state.elements id = some after := by
  cases hdelete : Forest.delete? e.state.elements id with
  | none => simp [step, deleteElement, hdelete, commitForest, accepted]
  | some after =>
    simp only [step, deleteElement, hdelete, commitForest, commit, accepted, Option.some.injEq,
      exists_eq', iff_true]
    split <;> rfl

/-- A deletion drops the selection or keeps it, beside the change of the active forest. -/
theorem deleteElement_state {after : Forest} (h : Forest.delete? e.state.elements id = some after) :
    (e.step now (.deleteElement id)).2.state =
      if deletesSelection e.state id then { e.state.withElements after with selected := none }
      else e.state.withElements after := by
  simp only [step, deleteElement, h, commitForest, commit, accepted]
  split <;> rfl

theorem deleteElement_elements {after : Forest}
    (h : Forest.delete? e.state.elements id = some after) :
    (e.step now (.deleteElement id)).2.state.elements = after := by
  -- without an open section there is no element to delete
  have hopened : e.state.Opened := by
    by_contra hclosed
    have hempty : e.state.elements = [] := by
      rw [elements, active?_of_not_opened hclosed]
      rfl
    rw [hempty] at h
    cases h
  rw [deleteElement_state h]
  split
  · exact withElements_elements hopened after
  · exact withElements_elements hopened after

/-- The selection is kept unless it names a node of the element that is found. -/
theorem deleteElement_selected {after : Forest} {found : Element}
    (h : Forest.delete? e.state.elements id = some after)
    (hfound : Forest.find? e.state.elements id = some found) :
    (e.step now (.deleteElement id)).2.state.selected =
      e.state.selected.filter (fun x => x ∉ Forest.ids [found]) := by
  have hkept : (e.state.withElements after).selected = e.state.selected := by
    rw [← withElements_selected]
  rw [deleteElement_state h]
  by_cases hdeletes : deletesSelection e.state id = true
  · obtain ⟨x, hselected, hin⟩ := (deletesSelection_iff hfound).1 hdeletes
    rw [if_pos hdeletes, hselected]
    simp [Option.filter_some, hin]
  · rw [if_neg hdeletes, hkept]
    rw [deletesSelection_iff hfound] at hdeletes
    cases hselected : e.state.selected with
    | none => rfl
    | some x =>
      have hout : x ∉ Forest.ids [found] := fun hin => hdeletes ⟨x, hselected, hin⟩
      simp [Option.filter_some, hout]

/-- The selection is what the change of the forest asks for exactly if the selected id, where it was
there, is either below the element that is found or still there. -/
theorem deleteElement_selectionIn_iff (e : Editor) (now : Int) {after : Forest} {found : Element}
    (h : Forest.delete? e.state.elements id = some after)
    (hfound : Forest.find? e.state.elements id = some found)
    (hsub : ∀ x ∈ Forest.ids [found], x ∈ Forest.ids e.state.elements) :
    (e.step now (.deleteElement id)).2.state.selected = e.state.selectionIn after ↔
      ∀ x, e.state.selected = some x → x ∈ Forest.ids e.state.elements →
        (x ∈ Forest.ids [found] ↔ x ∉ Forest.ids after) := by
  rw [deleteElement_selected h hfound, selectionIn]
  cases e.state.selected with
  | none => simp
  | some x =>
    by_cases hin : x ∈ Forest.ids [found]
    · simp [Option.filter_some, hin, hsub x hin]
    · simp [Option.filter_some, hin]

/-- After an applied deletion the selection is what the change of the active forest asks for exactly
if the selected id, where it was there, is either below the element that is found or still there.
This is so for every selection exactly if no id below the found element is left, and then that
element is the one that is gone. Distinct ids are enough. -/
theorem deletion_selects_iff (e : Editor) (now : Int) (id : String)
    (happlied : (e.step now (.deleteElement id)).1 = .ok .applied) :
    let before := e.state.elements
    let next := (e.step now (.deleteElement id)).2.state
    ∃ (found gone : Element) (gap : Gap),
      Forest.find? before id = some found ∧ gone.id = id ∧
      before = gap.fill gone ∧ next.elements = gap.close ∧
      (next.selected = e.state.selectionIn next.elements ↔
        ∀ x, e.state.selected = some x → x ∈ Forest.ids before →
          (x ∈ Forest.ids [found] ↔ x ∉ Forest.ids next.elements)) ∧
      ((∀ selected, ((e.select selected).step now (.deleteElement id)).2.state.selected =
          (e.select selected).state.selectionIn next.elements) ↔
        ∀ x ∈ Forest.ids [found], x ∉ Forest.ids next.elements) ∧
      ((∀ x ∈ Forest.ids [found], x ∉ Forest.ids next.elements) → found = gone) ∧
      ((Forest.ids before).Nodup → next.selected = e.state.selectionIn next.elements) := by
  intro before next
  obtain ⟨after, hdelete⟩ := deleteElement_applied_iff.1 happlied
  obtain ⟨found, gone, gap, hfound, hgone, hbefore, hafter, hsub, hclear, hdistinct⟩ :=
    Forest.delete?_found hdelete
  have helements : next.elements = after := deleteElement_elements hdelete
  rw [helements]
  have hexact : next.selected = e.state.selectionIn after ↔
      ∀ x, e.state.selected = some x → x ∈ Forest.ids before →
        (x ∈ Forest.ids [found] ↔ x ∉ Forest.ids after) :=
    deleteElement_selectionIn_iff e now hdelete hfound hsub
  refine ⟨found, gone, gap, hfound, hgone, hbefore, hafter, hexact, ⟨fun hall x hx => ?_, ?_⟩,
    fun hleft => (hclear hleft).1, fun hnodup => ?_⟩
  · -- the deletion with this id selected
    have hselected := deleteElement_selectionIn_iff (e.select (some x)) now hdelete hfound hsub
    exact (hselected.1 (hall (some x)) x rfl (hsub x hx)).1 hx
  · intro hleft selected
    refine (deleteElement_selectionIn_iff (e.select selected) now hdelete hfound hsub).2 ?_
    exact fun x _ hx => (hclear hleft).2 x hx
  · exact hexact.2 fun x _ hx => (hclear (hdistinct hnodup)).2 x hx

/-- A box with a text, and the text selected. -/
def textSelected : List (Int × Command) :=
  [(0, .addElement ((Element.new "box" .container).withChild (.new "text" .text))),
    (1, .selectElement (some "f6e9fbe0-2"))]

theorem deletion_selects_iff_box :
    let e := (Editor.new {} "oracle").after textSelected
    let next := (e.step 2 (.deleteElement "f6e9fbe0-1")).2.state
    (e.step 2 (.deleteElement "f6e9fbe0-1")).1 = .ok .applied ∧
      (Forest.ids e.state.elements).Nodup ∧ e.state.selected = some "f6e9fbe0-2" ∧
      next.selected = none ∧ next.selected = e.state.selectionIn next.elements := by
  intro e next
  have happlied : (e.step 2 (.deleteElement "f6e9fbe0-1")).1 = .ok .applied :=
    deleteElement_applied_iff.2 (Option.isSome_iff_exists.1 (by decide +kernel))
  have hnodup : (Forest.ids e.state.elements).Nodup := by decide +kernel
  obtain ⟨found, gone, gap, -, -, -, -, -, -, -, hdistinct⟩ :=
    deletion_selects_iff e 2 "f6e9fbe0-1" happlied
  exact ⟨happlied, hnodup, by decide +kernel, by decide +kernel, hdistinct hnodup⟩

/-- A project with a selected text `s` in a box `x`, and another `x` in the box before it. -/
def boxNamedTwice : List (Int × String) :=
  let text (id : String) : Json := .obj [("id", .str id), ("type", .str "text")]
  let box (id : String) (content : Json) : Json :=
    .obj [("id", .str id), ("type", .str "container"), ("children", .arr [content])]
  let home : Json := .obj [("id", .str "home"), ("name", .str "Home"), ("slug", .str "home"),
    ("isHome", .bool true), ("elements", .arr [box "a" (text "x"), box "x" (text "s")])]
  let load : Json := .obj [("type", .str "loadProject"), ("sections", .obj [("home", home)])]
  let select : Json := .obj [("type", .str "selectElement"), ("id", .str "s")]
  [(0, load.compact), (1, select.compact)]

/-- Deleting `x` finds the one in the first box and takes out the box that holds the selected text.
The selection stays and names nothing. -/
theorem boxNamedTwice_keeps_selection :
    let e := ((Editor.new {} "oracle").runPayloads boxNamedTwice).2
    let next := (e.step 2 (.deleteElement "x")).2.state
    (e.step 2 (.deleteElement "x")).1.toOption = some .applied ∧
      Forest.ids e.state.elements = ["a", "x", "x", "s"] ∧ Forest.ids next.elements = ["a", "x"] ∧
      next.selected = some "s" ∧ e.state.selectionIn next.elements = none := by
  decide +kernel

end Editor

end PageBuilder
