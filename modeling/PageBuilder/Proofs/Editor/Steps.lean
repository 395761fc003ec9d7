import PageBuilder.Editor.Session
import Mathlib.Tactic.SplitIfs

/-!
What one command can do to an editor. Every step is one of five kinds, and proofs about steps go
through these kinds: a step does nothing, replaces the state, records the state before it replaces
it, or takes over a state of the history in one of the two directions.
-/

namespace PageBuilder

/-- A rejected offer leaves the guard as it was. -/
theorem AddGuard.offer_rejected {g : AddGuard} {attempt : AddAttempt}
    (h : (g.offer attempt).1 = false) : (g.offer attempt).2 = g := by
  unfold offer at h ⊢
  split_ifs at h ⊢
  rfl

namespace Editor

/-- The command edits the active forest, and `after` is what it makes of it. -/
def Edits (before : Forest) : Command → Forest → Prop
  | .updateElement id patch, after => Forest.update? before id patch = some after
  | .deleteElement id, after => Forest.delete? before id = some after
  | .moveElement id position, after => Forest.reposition? before id position = some after
  | .resizeElement id size, after => Forest.resize? before id size = some after
  | .reorderElements order, after => Forest.reorder? before order = some after
  | .clearCanvas, after => after = []
  | _, _ => False

/-- The command changes the state and leaves the history alone. -/
def Amends (before : EditorState) : Command → EditorState → Prop
  | .selectElement id, after => after = { before with selected := id }
  | .setZoom zoom, after =>
    zoom.isFinite = true ∧
      after = { before with viewport := { before.viewport with zoom := clampZoom zoom } }
  | .setCanvasSize width height, after =>
    (validLength width && validLength height) = true ∧
      after = { before with viewport := { before.viewport with canvas := ⟨width, height⟩ } }
  | .switchSection id, after =>
    before.sections.contains id = true ∧
      after = { before with activeSection := id, selected := none }
  | _, _ => False

/-- The section that a load opens: the asked one if there is such a key, else the home section. -/
def opened? (sections : Sections) (active : Option String) : Option String :=
  (active.filter sections.withSingleHome.contains).or (sections.withSingleHome.home?.map Section.id)

/-- The section that adding under a name makes, with the next id of the editor. -/
def newSection (e : Editor) (name : String) : Section :=
  { Section.new e.ids.next.1 name with
    slug := freeSlug (e.state.sections.values.map Section.slug) (slugify name) }

/-- The guard's answer to an add. -/
def offered (e : Editor) (now : Int) (element : Element) : Bool × AddGuard :=
  e.guard.offer ⟨element.type, element.node.position, now⟩

/-- The command records the state before it. What follows it are the state, the source of ids and
the guard after the command. -/
inductive Records (e : Editor) (now : Int) :
    Command → EditorState → IdSource → AddGuard → Prop
  | add (element : Element) : (e.offered now element).1 = true →
      Records e now (.addElement element)
        { e.state.withElements (e.state.elements ++ [(element.withFreshIds e.ids).1]) with
          selected := some (element.withFreshIds e.ids).1.id }
        (element.withFreshIds e.ids).2 (e.offered now element).2
  | edit (c : Command) (after : Forest) (selected : Option String) :
      Edits e.state.elements c after →
      Records e now c { e.state.withElements after with selected := selected } e.ids e.guard
  | template (elements : Forest) :
      Records e now (.loadTemplate elements)
        { e.state.withElements (Forest.withFreshIds e.ids elements).1 with selected := none }
        (Forest.withFreshIds e.ids elements).2 e.guard
  | project (sections : Sections) (active : Option String) (key : String) :
      opened? sections active = some key →
      Records e now (.loadProject sections active)
        { e.state with
          sections := sections.withSingleHome
          activeSection := key
          selected := none }
        (e.ids.advancePast (projectIds sections.withSingleHome)) e.guard.reset
  | addSection (name : String) :
      Records e now (.addSection name) (e.state.withSection (e.newSection name)) e.ids.next.2
        e.guard
  | removeSection (id : String) (s : Section) :
      e.state.sections.get? id = some s → s.isHome = false →
      Records e now (.removeSection id) (e.state.withoutSection id) e.ids e.guard

/-- The answer to a command and the editor after it. -/
inductive Did (e : Editor) (now : Int) : Command → Except EditError Outcome → Editor → Prop
  | nothing (c : Command) (r : Except EditError Outcome) : r ≠ .ok .applied → Did e now c r e
  | amended (c : Command) (next : EditorState) : Amends e.state c next →
      Did e now c (.ok .applied) { e with state := next }
  | recorded (c : Command) (label : String) (next : EditorState) (ids : IdSource)
      (guard : AddGuard) : Records e now c next ids guard →
      Did e now c (.ok .applied) ⟨next, e.history.push e.state label, ids, guard⟩
  | undone (state : EditorState) (history : History EditorState) :
      e.history.undo? e.state = some (state, history) →
      Did e now .undo (.ok .applied) { e with state := state, history := history }
  | redone (state : EditorState) (history : History EditorState) :
      e.history.redo? e.state = some (state, history) →
      Did e now .redo (.ok .applied) { e with state := state, history := history }

variable (e : Editor) (now : Int)

theorem offered_rejected (element : Element) (h : (e.offered now element).1 = false) :
    (e.offered now element).2 = e.guard := AddGuard.offer_rejected h

theorem addElement_did (element : Element) :
    Did e now (.addElement element) (accepted (e.addElement now element)).1
      (accepted (e.addElement now element)).2 := by
  have hoffer : e.guard.offer ⟨element.type, element.node.position, now⟩ = e.offered now element :=
    rfl
  unfold addElement
  rw [hoffer]
  cases haccepted : (e.offered now element).1 with
  | true =>
    simp only [haccepted, if_true]
    exact .recorded _ _ _ _ _ (.add element haccepted)
  | false =>
    simp only [haccepted, Bool.false_eq_true, if_false, offered_rejected e now element haccepted]
    exact .nothing _ _ (by simp [accepted])

/-- Another forest in the active section leaves the selection as it was. -/
theorem withElements_selected (s : EditorState) (forest : Forest) :
    { s.withElements forest with selected := s.selected } = s.withElements forest := by
  unfold EditorState.withElements
  cases s.active? <;> rfl

/-- The commands that edit the active forest share one step. -/
theorem commitForest_did (c : Command) (label : String) (result : Option Forest)
    (h : ∀ after, result = some after → Edits e.state.elements c after) :
    Did e now c (accepted (e.commitForest label result)).1
      (accepted (e.commitForest label result)).2 := by
  cases hresult : result with
  | none => exact .nothing _ _ (by simp [accepted, commitForest])
  | some after =>
    have hrecord : Records e now c _ _ _ := .edit c after e.state.selected (h after hresult)
    rw [withElements_selected] at hrecord
    exact .recorded _ _ _ _ _ hrecord

theorem deleteElement_did (id : String) :
    Did e now (.deleteElement id) (accepted (e.deleteElement id)).1
      (accepted (e.deleteElement id)).2 := by
  unfold deleteElement
  cases hdelete : Forest.delete? e.state.elements id with
  | none => exact .nothing _ _ (by simp [accepted, commitForest])
  | some after =>
    have hrecord (selected : Option String) : Records e now (.deleteElement id) _ _ _ :=
      .edit _ after selected hdelete
    simp only [commitForest, commit]
    split
    · exact .recorded _ _ _ _ _ (hrecord none)
    · have hkept := hrecord e.state.selected
      rw [withElements_selected] at hkept
      exact .recorded _ _ _ _ _ hkept

theorem loadProject_did (sections : Sections) (active : Option String) :
    Did e now (.loadProject sections active) (e.loadProject sections active).1
      (e.loadProject sections active).2 := by
  unfold loadProject
  cases hkey : opened? sections active with
  | none =>
    unfold opened? at hkey
    simp only [hkey]
    exact .nothing _ _ (by simp)
  | some key =>
    have hrecord : Records e now (.loadProject sections active) _ _ _ := .project _ _ key hkey
    unfold opened? at hkey
    simp only [hkey]
    exact .recorded _ _ _ _ _ hrecord

theorem removeSection_did (id : String) :
    Did e now (.removeSection id) (e.removeSection id).1 (e.removeSection id).2 := by
  unfold removeSection
  cases hget : e.state.sections.get? id with
  | none => exact .nothing _ _ (by simp)
  | some s =>
    cases hhome : s.isHome with
    | true =>
      simp only [hhome, if_true]
      exact .nothing _ _ (by simp)
    | false =>
      simp only [hhome, Bool.false_eq_true, if_false]
      exact .recorded _ _ _ _ _ (.removeSection id s hget hhome)

/-- Every step is of one of the five kinds. -/
theorem step_did (c : Command) : Did e now c (e.step now c).1 (e.step now c).2 := by
  cases c with
  | addElement element => exact addElement_did e now element
  | updateElement id patch => exact commitForest_did e now _ _ _ fun _ h => h
  | deleteElement id => exact deleteElement_did e now id
  | selectElement id => exact .amended _ _ rfl
  | moveElement id position => exact commitForest_did e now _ _ _ fun _ h => h
  | resizeElement id size => exact commitForest_did e now _ _ _ fun _ h => h
  | reorderElements order => exact commitForest_did e now _ _ _ fun _ h => h
  | setZoom zoom =>
    simp only [step]
    split
    · next h => exact .amended _ _ ⟨h, rfl⟩
    · exact .nothing _ _ (by simp)
  | setCanvasSize width height =>
    simp only [step]
    split
    · next h => exact .amended _ _ ⟨h, rfl⟩
    · exact .nothing _ _ (by simp)
  | loadTemplate elements => exact .recorded _ _ _ _ _ (.template elements)
  | loadProject sections active => exact loadProject_did e now sections active
  | clearCanvas => exact .recorded _ _ _ _ _ (.edit _ [] none rfl)
  | addSection name => exact .recorded _ _ _ _ _ (.addSection name)
  | removeSection id => exact removeSection_did e now id
  | switchSection id =>
    simp only [step]
    split
    · next h => exact .amended _ _ ⟨h, rfl⟩
    · exact .nothing _ _ (by simp)
  | undo =>
    cases hundo : e.history.undo? e.state with
    | none =>
      simp only [step, hundo]
      exact .nothing _ _ (by simp [accepted, restore])
    | some p =>
      simp only [step, hundo]
      exact .undone p.1 p.2 hundo
  | redo =>
    cases hredo : e.history.redo? e.state with
    | none =>
      simp only [step, hredo]
      exact .nothing _ _ (by simp [accepted, restore])
    | some p =>
      simp only [step, hredo]
      exact .redone p.1 p.2 hredo

/-- The kinds of a step, with its answer and the editor after it named. -/
theorem exists_did (c : Command) : ∃ r e', e.step now c = (r, e') ∧ Did e now c r e' :=
  ⟨_, _, rfl, step_did e now c⟩

/-- A step that is not applied leaves the editor as it was. -/
theorem step_idle (c : Command) (h : (e.step now c).1 ≠ .ok .applied) : (e.step now c).2 = e := by
  obtain ⟨r, e', hstep, hdid⟩ := exists_did e now c
  rw [hstep] at h ⊢
  cases hdid with
  | nothing => rfl
  | amended => exact absurd rfl h
  | recorded => exact absurd rfl h
  | undone => exact absurd rfl h
  | redone => exact absurd rfl h

end Editor

end PageBuilder
