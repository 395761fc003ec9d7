import PageBuilder.Proofs.Editor.Runs

/-!
Linear history. An editor refines a timeline: every command is one step of the timeline, a session
never holds more states than its settings allow, and redoing takes back what undoing did.
-/

namespace PageBuilder

/-- How a command moves the timeline when it is applied. -/
inductive TimelineMove where
  | record
  | replace
  | back
  | forward

/-- Commands that change the document are recorded. Those that change the selection, the view or the
open section only replace the current state. -/
def Command.timelineMove : Command → TimelineMove
  | .addElement _ | .updateElement _ _ | .deleteElement _ | .moveElement _ _
  | .resizeElement _ _ | .reorderElements _ | .loadTemplate _ | .loadProject _ _ | .clearCanvas
  | .addSection _ | .removeSection _ => .record
  | .selectElement _ | .setZoom _ | .setCanvasSize _ _ | .switchSection _ => .replace
  | .undo => .back
  | .redo => .forward

namespace Timeline

/-- The timeline after a command of one kind that answered `answer` and left the state `next`. A
command that is not applied leaves the timeline alone, and undoing and redoing are applied unless
the cursor stands at an end. -/
def Steps {α : Type} (limit : Nat) (t : Timeline α) (move : TimelineMove)
    (answer : Except EditError Outcome) (next : α) (t' : Timeline α) : Prop :=
  match move with
  | .record => (answer = .ok .applied ∧ t' = t.record limit next) ∨
      (answer ≠ .ok .applied ∧ t' = t)
  | .replace => (answer = .ok .applied ∧ t' = t.replace next) ∨ (answer ≠ .ok .applied ∧ t' = t)
  | .back => (answer = .ok .applied ∧ t.back? = some t') ∨
      (answer = .ok .unchanged ∧ t.back? = none ∧ t' = t)
  | .forward => (answer = .ok .applied ∧ t.forward? = some t') ∨
      (answer = .ok .unchanged ∧ t.forward? = none ∧ t' = t)

end Timeline

namespace Editor

/-- The states of a session around the current one. -/
def timeline (e : Editor) : Timeline EditorState := e.history.timeline e.state

variable (e : Editor) (now : Int)

theorem edits_move {before after : Forest} {c : Command} (h : Edits before c after) :
    c.timelineMove = .record := by
  cases c with
  | updateElement id patch => rfl
  | deleteElement id => rfl
  | moveElement id position => rfl
  | resizeElement id size => rfl
  | reorderElements order => rfl
  | clearCanvas => rfl
  | _ => exact h.elim

theorem amends_move {before after : EditorState} {c : Command} (h : Amends before c after) :
    c.timelineMove = .replace := by
  cases c with
  | selectElement id => rfl
  | setZoom zoom => rfl
  | setCanvasSize width height => rfl
  | switchSection id => rfl
  | _ => exact h.elim

theorem records_move {c : Command} {next : EditorState} {ids : IdSource} {guard : AddGuard}
    (h : Records e now c next ids guard) : c.timelineMove = .record := by
  cases h with
  | edit _ _ _ hedit => exact edits_move hedit
  | add => rfl
  | template => rfl
  | project => rfl
  | addSection => rfl
  | removeSection => rfl

/-- Undoing moves the cursor back, or answers that it stands at the start. -/
theorem undo_timeline :
    e.timeline.Steps e.history.limit .back (e.step now .undo).1 (e.step now .undo).2.state
      (e.step now .undo).2.timeline := by
  cases hundo : e.history.undo? e.state with
  | none =>
    right
    simp only [step, hundo]
    exact ⟨rfl, History.timeline_undo_none hundo, rfl⟩
  | some p =>
    left
    simp only [step, hundo]
    exact ⟨rfl, History.timeline_undo hundo⟩

/-- Redoing moves the cursor forward, or answers that it stands at the end. -/
theorem redo_timeline :
    e.timeline.Steps e.history.limit .forward (e.step now .redo).1 (e.step now .redo).2.state
      (e.step now .redo).2.timeline := by
  cases hredo : e.history.redo? e.state with
  | none =>
    right
    simp only [step, hredo]
    exact ⟨rfl, History.timeline_redo_none hredo, rfl⟩
  | some p =>
    left
    simp only [step, hredo]
    exact ⟨rfl, History.timeline_redo hredo⟩

/-- Every command is one step of the timeline. -/
theorem step_timeline (c : Command) :
    e.timeline.Steps e.history.limit c.timelineMove (e.step now c).1 (e.step now c).2.state
      (e.step now c).2.timeline := by
  by_cases hundo : c = .undo
  · subst hundo
    exact undo_timeline e now
  by_cases hredo : c = .redo
  · subst hredo
    exact redo_timeline e now
  obtain ⟨r, e', hstep, hdid⟩ := exists_did e now c
  rw [hstep]
  cases hdid with
  | nothing _ _ hidle =>
    cases c with
    | undo => exact absurd rfl hundo
    | redo => exact absurd rfl hredo
    | _ => exact Or.inr ⟨hidle, rfl⟩
  | amended _ next hnext =>
    rw [amends_move hnext]
    exact Or.inl ⟨rfl, History.timeline_replace _ _ _⟩
  | recorded _ label next ids guard hnext =>
    rw [records_move e now hnext]
    exact Or.inl ⟨rfl, History.timeline_push _ _ _ _⟩
  | undone => exact absurd rfl hundo
  | redone => exact absurd rfl hredo

/-- The history stays within its limit, undone states included. -/
theorem step_levels (c : Command) (hlimit : 0 < e.history.limit)
    (h : e.history.levels ≤ e.history.limit) :
    (e.step now c).2.history.levels ≤ e.history.limit := by
  unfold History.levels at h ⊢
  obtain ⟨r, e', hstep, hdid⟩ := exists_did e now c
  rw [hstep]
  cases hdid with
  | nothing => exact h
  | amended => exact h
  | recorded _ label next ids guard hnext =>
    simp only [History.push, List.length_nil]
    split
    · simp only [List.length_dropLast, List.length_cons]
      omega
    · next hfull =>
      simp only [Bool.and_eq_true, decide_eq_true_eq, List.length_cons, not_and,
        Nat.not_lt] at hfull
      simpa using hfull hlimit
  | undone state history hundo =>
    obtain ⟨label, past, hpast, rfl⟩ := History.undo?_eq_some hundo
    simp only [hpast, List.length_cons] at h ⊢
    omega
  | redone state history hredo =>
    obtain ⟨label, future, hfuture, rfl⟩ := History.redo?_eq_some hredo
    simp only [hfuture, List.length_cons] at h ⊢
    omega

theorem after_levels (config : EditorConfig) (key : String) (script : List (Int × Command))
    (hlimit : 0 < config.maxHistory) :
    ((Editor.new config key).after script).history.levels ≤ config.maxHistory := by
  have hlevels := after_invariant
    (P := fun x => x.history.limit = config.maxHistory ∧ x.history.levels ≤ config.maxHistory)
    (fun x now c hx => by
      have hx' : x.history.levels ≤ x.history.limit := hx.1 ▸ hx.2
      have hstep := step_levels x now c (hx.1 ▸ hlimit) hx'
      exact ⟨(step_limit x now c).trans hx.1, hx.1 ▸ hstep⟩)
    (Editor.new config key) script ⟨rfl, Nat.zero_le _⟩
  exact hlevels.2

/-- Redoing right after undoing leads back to the same editor. -/
theorem redo_after_undo (redoneAt : Int) (h : (e.step now .undo).1 = .ok .applied) :
    (e.step now .undo).2.step redoneAt .redo = (.ok .applied, e) := by
  cases hundo : e.history.undo? e.state with
  | none =>
    simp only [step, hundo] at h
    cases h
  | some p =>
    have hredo := History.redo_undo hundo
    simp only [step, hundo, restore, accepted, hredo]

/-- The script that undoes at the given times. -/
def undos (times : List Int) : List (Int × Command) := times.map fun now => (now, .undo)

/-- The script that redoes at the given times. -/
def redos (times : List Int) : List (Int × Command) := times.map fun now => (now, .redo)

/-- Undoing some times and redoing as often leads back to the same editor. -/
theorem run_undos_redos (e : Editor) (undone redone : List Int)
    (hlength : redone.length = undone.length)
    (happlied : ∀ r ∈ (e.run (undos undone)).1, r = .ok .applied) :
    e.run (undos undone ++ redos redone) =
      (List.replicate (undone.length + redone.length) (.ok .applied), e) := by
  induction undone generalizing e redone with
  | nil =>
    rw [List.length_nil, List.length_eq_zero_iff] at hlength
    subst hlength
    rfl
  | cons now rest ih =>
    -- the first undo is taken back by the last redo
    obtain rfl | ⟨inner, last, rfl⟩ := List.eq_nil_or_concat redone
    · cases hlength
    rw [List.concat_eq_append] at hlength ⊢
    have hinner : inner.length = rest.length := by simpa using hlength
    have hfirst : (e.step now .undo).1 = .ok .applied :=
      happlied _ (List.mem_cons_self ..)
    have hrest := ih (e.step now .undo).2 inner hinner
      fun r hr => happlied r (List.mem_cons_of_mem _ hr)
    have hlast := redo_after_undo e now last hfirst
    have hscript : undos (now :: rest) ++ redos (inner ++ [last]) =
        (now, .undo) :: ((undos rest ++ redos inner) ++ [(last, .redo)]) := by
      simp [undos, redos]
    rw [hscript]
    unfold run at hrest ⊢
    simp only [runMachine, runMachine_append, hrest, hlast, hfirst]
    simp only [List.length_cons, List.length_append, List.length_nil, Prod.mk.injEq, and_true]
    rw [← List.replicate_one, List.replicate_append_replicate, ← List.replicate_succ]
    congr 1
    omega

/-- An editor refines a timeline whose cursor stands on the current state. From every editor that a
session reaches, each command is one step of the timeline, the session never holds more states than
its settings allow, and undoing some times and then redoing as often gives the editor back, both
stacks with all their names included. -/
theorem editor_refines_timeline (config : EditorConfig) (key : String)
    (script : List (Int × Command)) :
    let e := (Editor.new config key).after script
    e.timeline.now = e.state ∧
    (∀ now c, e.timeline.Steps config.maxHistory c.timelineMove (e.step now c).1
      (e.step now c).2.state (e.step now c).2.timeline) ∧
    (0 < config.maxHistory → e.timeline.entries.length ≤ config.maxHistory + 1) ∧
    ∀ undone redone : List Int, redone.length = undone.length →
      (∀ r ∈ (e.run (undos undone)).1, r = .ok .applied) →
      e.run (undos undone ++ redos redone) =
        (List.replicate (undone.length + redone.length) (.ok .applied), e) := by
  intro e
  have hlimit : e.history.limit = config.maxHistory := after_limit _ script
  refine ⟨History.timeline_now _ _, fun now c => ?_, fun hpos => ?_, run_undos_redos e⟩
  · have hstep := step_timeline e now c
    rwa [hlimit] at hstep
  · have hlevels := after_levels config key script hpos
    have hentries : e.timeline.entries.length = e.history.levels + 1 := by
      simp [timeline, History.timeline, History.levels, Nat.add_assoc]
    rw [hentries]
    exact Nat.add_le_add_right hlevels 1

end Editor

end PageBuilder
