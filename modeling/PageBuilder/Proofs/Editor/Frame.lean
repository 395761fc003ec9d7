import PageBuilder.Proofs.Editor.Sections

/-!
What a command leaves alone. Edits of elements stay inside the open section: they change its forest
and the selection. Adding and removing a section leave all other sections as they are.
-/

namespace PageBuilder

/-- The command adds, edits, removes or replaces elements of the open section. -/
def Command.EditsElements : Command → Prop
  | .addElement _ | .updateElement _ _ | .deleteElement _ | .moveElement _ _ | .resizeElement _ _
  | .reorderElements _ | .loadTemplate _ | .clearCanvas => True
  | _ => False

/-- What a section holds apart from its elements. -/
def Section.heading (s : Section) : String × String × String × Bool :=
  (s.id, s.name, s.slug, s.isHome)

namespace EditorState

/-- The view is as before, and so are all sections but the one under a key. -/
structure KeepsOthers (key : String) (before after : EditorState) : Prop where
  others : ∀ other, other ≠ key → after.sections.get? other = before.sections.get? other
  viewport : after.viewport = before.viewport

/-- Nothing but the forest of the open section and the selection has changed. -/
structure StaysInside (before after : EditorState) : Prop
    extends KeepsOthers before.activeSection before after where
  keys : after.sections.keys = before.sections.keys
  headings : ∀ key, (after.sections.get? key).map Section.heading =
    (before.sections.get? key).map Section.heading
  activeSection : after.activeSection = before.activeSection

theorem StaysInside.refl (s : EditorState) : s.StaysInside s :=
  ⟨⟨fun _ _ => rfl, rfl⟩, rfl, fun _ => rfl, rfl⟩

theorem StaysInside.trans {first second third : EditorState} (h : first.StaysInside second)
    (hnext : second.StaysInside third) : first.StaysInside third := by
  refine ⟨⟨fun key hkey => ?_, hnext.viewport.trans h.viewport⟩, hnext.keys.trans h.keys,
    fun key => (hnext.headings key).trans (h.headings key),
    hnext.activeSection.trans h.activeSection⟩
  -- the section that is open stays the same one
  have hopen : key ≠ second.activeSection := by
    rw [h.activeSection]
    exact hkey
  exact (hnext.others key hopen).trans (h.others key hkey)

theorem withElements_staysInside (s : EditorState) (forest : Forest) (selected : Option String) :
    s.StaysInside { s.withElements forest with selected := selected } := by
  have hkeys := withElements_keys s forest
  have hactive := withElements_activeSection s forest
  cases hopen : s.active? with
  | none =>
    rw [(withElements_inactive hopen forest).1]
    exact ⟨⟨fun _ _ => rfl, rfl⟩, rfl, fun _ => rfl, rfl⟩
  | some a =>
    have hchanged : s.withElements forest =
        { s with
          sections := s.sections.insert s.activeSection { a with elements := forest } } := by
      simp only [withElements, hopen]
    have hget (key : String) : (s.withElements forest).sections.get? key =
        if key = s.activeSection then some { a with elements := forest }
        else s.sections.get? key := by
      rw [hchanged]
      exact SortedMap.get?_insert ..
    refine ⟨⟨fun key hkey => ?_, by rw [hchanged]⟩, hkeys, fun key => ?_, hactive⟩
    · exact (hget key).trans (if_neg hkey)
    · change ((s.withElements forest).sections.get? key).map Section.heading = _
      rw [hget key]
      split
      · -- the open section gets other elements and keeps the rest
        next hkey =>
        have hbefore : s.sections.get? s.activeSection = some a := hopen
        rw [hkey, hbefore]
        rfl
      · rfl

theorem withSection_keepsOthers (s : EditorState) (added : Section) :
    KeepsOthers added.id s (s.withSection added) := by
  refine ⟨fun key hkey => ?_, rfl⟩
  exact (SortedMap.get?_insert ..).trans (if_neg hkey)

theorem withoutSection_keepsOthers (s : EditorState) (key : String) :
    KeepsOthers key s (s.withoutSection key) := by
  refine ⟨fun other hother => ?_, ?_⟩
  · rw [withoutSection_sections, SortedMap.get?_erase, if_neg hother]
  · simp only [withoutSection]
    split <;> rfl

end EditorState

namespace Editor

open EditorState

variable (e : Editor) (now : Int)

/-- What changes elements goes into the history. -/
theorem not_amends {c : Command} (hc : c.EditsElements) {before after : EditorState} :
    ¬ Amends before c after := by
  intro hamends
  cases c <;> first | exact hc.elim | exact hamends.elim

/-- An edit of elements stays inside the open section, whether it is applied or not. -/
theorem step_staysInside {c : Command} (hc : c.EditsElements) :
    e.state.StaysInside (e.step now c).2.state := by
  obtain ⟨r, e', hstep, hdid⟩ := exists_did e now c
  rw [hstep]
  cases hdid with
  | nothing => exact .refl e.state
  | amended _ _ hamends => exact absurd hamends (not_amends hc)
  | recorded _ label next ids guard hrecords =>
    cases hrecords with
    | add element haccepted => exact withElements_staysInside ..
    | edit _ after selected hedit => exact withElements_staysInside ..
    | template elements => exact withElements_staysInside ..
    | project => exact hc.elim
    | addSection => exact hc.elim
    | removeSection => exact hc.elim
  | undone => exact hc.elim
  | redone => exact hc.elim

theorem after_staysInside (script : List (Int × Command))
    (hscript : ∀ entry ∈ script, entry.2.EditsElements) :
    e.state.StaysInside (e.after script).state := by
  induction script generalizing e with
  | nil => exact .refl e.state
  | cons first rest ih =>
    obtain ⟨hfirst, hrest⟩ := List.forall_mem_cons.1 hscript
    exact (step_staysInside e first.1 hfirst).trans (ih _ hrest)

theorem removeSection_state {id : String}
    (h : (e.step now (.removeSection id)).1 = .ok .applied) :
    (e.step now (.removeSection id)).2.state = e.state.withoutSection id := by
  obtain ⟨r, e', hstep, hdid⟩ := exists_did e now (.removeSection id)
  rw [hstep] at h ⊢
  cases hdid with
  | nothing _ _ hr => exact absurd h hr
  | amended _ _ hamends => exact hamends.elim
  | recorded _ _ _ _ _ hrecords =>
    cases hrecords with
    | edit _ _ _ hedit => exact hedit.elim
    | removeSection => rfl

/-- Adding, editing, removing and replacing elements, any number of times and whatever comes of it,
keep the keys of the sections, their ids, names, slugs and home marks, the forests of all sections but
the open one, which one is open, and the view. Removing a section takes away the one under its key
and keeps all others with the view, and so does adding a section under a key that is new. -/
theorem edits_stay_inside (e : Editor) :
    (∀ now c, c.EditsElements → e.state.StaysInside (e.step now c).2.state) ∧
    (∀ script : List (Int × Command), (∀ entry ∈ script, entry.2.EditsElements) →
      e.state.StaysInside (e.after script).state) ∧
    (∀ now id, (e.step now (.removeSection id)).1 = .ok .applied →
      let next := (e.step now (.removeSection id)).2.state
      e.state.KeepsOthers id next ∧ next.sections.get? id = none) ∧
    ∀ now name, e.ids.next.1 ∉ e.state.sections.keys →
      let next := (e.step now (.addSection name)).2.state
      e.state.KeepsOthers e.ids.next.1 next ∧
        ∀ key ∈ e.state.sections.keys, next.sections.get? key = e.state.sections.get? key := by
  refine ⟨fun now c hc => step_staysInside e now hc, after_staysInside e, ?_, ?_⟩
  · intro now id happlied next
    have hnext : next = e.state.withoutSection id := removeSection_state e now happlied
    rw [hnext]
    refine ⟨withoutSection_keepsOthers e.state id, ?_⟩
    rw [withoutSection_sections, SortedMap.get?_erase, if_pos rfl]
  · intro now name hnew next
    have hothers : e.state.KeepsOthers e.ids.next.1 next :=
      withSection_keepsOthers e.state (e.newSection name)
    refine ⟨hothers, fun key hkey => hothers.others key ?_⟩
    -- the new section stands under a key of its own
    rintro rfl
    exact hnew hkey

/-- A session with an element on its home section and an empty section that is open. -/
def twoPages : Editor :=
  (Editor.new {} "oracle").after [(0, .addElement (.new "a" .text)), (1, .addSection "About")]

theorem edits_stay_inside_pages :
    let filled := (twoPages.step 2 (.addElement (.new "b" .image))).2
    let removed := twoPages.step 2 (.removeSection "f6e9fbe0-2")
    let added := (twoPages.step 2 (.addSection "Contact")).2
    Command.EditsElements (.addElement (.new "b" .image)) ∧
      twoPages.state.StaysInside filled.state ∧ Forest.ids filled.state.elements = ["f6e9fbe0-3"] ∧
      (∀ entry ∈ [((3 : Int), Command.clearCanvas)], entry.2.EditsElements) ∧
      filled.state.StaysInside (filled.after [(3, .clearCanvas)]).state ∧
      removed.1 = .ok .applied ∧ twoPages.state.KeepsOthers "f6e9fbe0-2" removed.2.state ∧
      removed.2.state.sections.get? "f6e9fbe0-2" = none ∧
      twoPages.ids.next.1 ∉ twoPages.state.sections.keys ∧
      twoPages.state.KeepsOthers twoPages.ids.next.1 added.state ∧
      ∀ key ∈ twoPages.state.sections.keys,
        added.state.sections.get? key = twoPages.state.sections.get? key := by
  intro filled removed added
  have hedits : Command.EditsElements (.addElement (.new "b" .image)) := trivial
  have hscript : ∀ entry ∈ [((3 : Int), Command.clearCanvas)], entry.2.EditsElements := by
    intro entry hentry
    rw [List.mem_singleton.1 hentry]
    trivial
  have hids : Forest.ids filled.state.elements = ["f6e9fbe0-3"] := by decide +kernel
  have happlied : removed.1 = .ok .applied := ok_of_toOption (by decide +kernel)
  have hnew : twoPages.ids.next.1 ∉ twoPages.state.sections.keys := by decide +kernel
  obtain ⟨hstep, -, hremove, hadd⟩ := edits_stay_inside twoPages
  obtain ⟨hothers, hgone⟩ := hremove 2 _ happlied
  exact ⟨hedits, hstep 2 _ hedits, hids, hscript, (edits_stay_inside filled).2.1 _ hscript,
    happlied, hothers, hgone, hnew, hadd 2 "Contact" hnew⟩

end Editor

end PageBuilder
