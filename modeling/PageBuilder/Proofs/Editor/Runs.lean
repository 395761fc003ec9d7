import PageBuilder.Proofs.Editor.Steps
import PageBuilder.Proofs.Editor.Timeline
import PageBuilder.Workspace.Script

/-!
Runs of commands, and the states that a session holds: the current one and those of its history.
Every state after a step either was there before or is made by the step. A command or a payload that
is not applied leaves the whole editor as it was, so that a script runs the same without such steps.
-/

namespace PageBuilder.Editor

/-- Runs commands one after the other, each at its time, and collects how each one went. -/
def run : Editor → List (Int × Command) → List (Except EditError Outcome) × Editor :=
  runMachine fun e c => e.step c.1 c.2

/-- The editor after commands. -/
def after (e : Editor) (script : List (Int × Command)) : Editor := (e.run script).2

/-- The current state and the states that undoing and redoing bring back. -/
def states (e : Editor) : List EditorState :=
  e.state :: (e.history.past ++ e.history.future).map Snapshot.state

/-- What every step preserves holds after every run. -/
theorem after_invariant {P : Editor → Prop} (hstep : ∀ e now c, P e → P (e.step now c).2)
    (e : Editor) (script : List (Int × Command)) (h : P e) : P (e.after script) := by
  unfold after run
  exact runMachine_invariant _ (fun x c => hstep x c.1 c.2) e script h

/-- The limit of the history is set once and for all. -/
theorem step_limit (e : Editor) (now : Int) (c : Command) :
    (e.step now c).2.history.limit = e.history.limit := by
  obtain ⟨r, e', hstep, hdid⟩ := exists_did e now c
  rw [hstep]
  cases hdid with
  | nothing => rfl
  | amended => rfl
  | recorded => rfl
  | undone state history hundo =>
    obtain ⟨label, past, -, rfl⟩ := History.undo?_eq_some hundo
    rfl
  | redone state history hredo =>
    obtain ⟨label, future, -, rfl⟩ := History.redo?_eq_some hredo
    rfl

theorem after_limit (e : Editor) (script : List (Int × Command)) :
    (e.after script).history.limit = e.history.limit :=
  after_invariant (P := fun x => x.history.limit = e.history.limit)
    (fun x now c h => (step_limit x now c).trans h) e script rfl

/-- A state after a step was there before, or the step made it. -/
theorem step_states (e : Editor) (now : Int) (c : Command) {s : EditorState}
    (hs : s ∈ (e.step now c).2.states) :
    s ∈ e.states ∨ Amends e.state c s ∨
      ((e.step now c).1 = .ok .applied ∧
        ∃ guard, Records e now c s (e.step now c).2.ids guard) := by
  obtain ⟨r, e', hstep, hdid⟩ := exists_did e now c
  rw [hstep] at hs ⊢
  cases hdid with
  | nothing => exact Or.inl hs
  | amended _ next hnext =>
    rcases List.mem_cons.1 hs with rfl | hs
    · exact Or.inr (Or.inl hnext)
    · exact Or.inl (List.mem_cons_of_mem _ hs)
  | recorded _ label next ids guard hnext =>
    rcases List.mem_cons.1 hs with rfl | hs
    · exact Or.inr (Or.inr ⟨rfl, guard, hnext⟩)
    · left
      simp only [History.push, List.append_nil] at hs
      have hpast : s ∈ ((⟨e.state, label⟩ :: e.history.past : List (Snapshot EditorState))).map
          Snapshot.state := by
        split at hs
        · exact List.map_subset _ (List.dropLast_subset _) hs
        · exact hs
      simp only [List.map_cons, List.mem_cons] at hpast
      simp only [states, List.map_append, List.mem_cons, List.mem_append]
      exact hpast.imp_right Or.inl
  | undone state history hundo =>
    left
    obtain ⟨label, past, hpast, rfl⟩ := History.undo?_eq_some hundo
    simp only [states, hpast, List.map_append, List.map_cons, List.mem_cons,
      List.mem_append] at hs ⊢
    tauto
  | redone state history hredo =>
    left
    obtain ⟨label, future, hfuture, rfl⟩ := History.redo?_eq_some hredo
    simp only [states, hfuture, List.map_append, List.map_cons, List.mem_cons,
      List.mem_append] at hs ⊢
    tauto

section Idle

/-- A payload that is not applied leaves the editor as it was. -/
theorem stepPayload_idle (e : Editor) (now : Int) (payload : String)
    (h : (e.stepPayload now payload).1 ≠ .ok .applied) : (e.stepPayload now payload).2 = e := by
  unfold stepPayload at h ⊢
  cases hcommand : Command.ofPayload? payload with
  | none => rfl
  | some c =>
    rw [hcommand] at h
    exact step_idle e now c h

/-- A refused, unchanged or debounced step leaves the state, both stacks, the source of ids and the
guard as they were. Leaving any number of such steps out of a script, each of the others still at
its own time, changes neither the answers to the others nor the editor in the end. -/
theorem idle_steps_removable (e : Editor) :
    (∀ now c, (e.step now c).1 ≠ .ok .applied → (e.step now c).2 = e) ∧
    (∀ now payload, (e.stepPayload now payload).1 ≠ .ok .applied →
      (e.stepPayload now payload).2 = e) ∧
    ∀ (script : List (Int × String)) (keep : Nat → Bool),
      (∀ i, (e.runPayloads script).1[i]? = some (.ok .applied) → keep i = true) →
      e.runPayloads (keepAt keep script) =
        (keepAt keep (e.runPayloads script).1, (e.runPayloads script).2) := by
  refine ⟨step_idle e, stepPayload_idle e, fun script keep hkeep => ?_⟩
  apply runMachine_keepAt _ (fun r => r = .ok .applied)
  · intro x payload hidle
    exact stepPayload_idle x payload.1 payload.2 hidle
  · intro i answer hanswer happlied
    subst happlied
    exact hkeep i hanswer

end Idle

end PageBuilder.Editor
