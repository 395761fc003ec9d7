import PageBuilder.Proofs.Editor.OpenSection
import Mathlib.Data.List.Induction

/-!
Undoing after a project is loaded. Loading is recorded like every other change, so the state before
it lies at the bottom of the history that later commands build. A session with that state at the
bottom goes on as one whose history begins with the project, as long as every undo finds a change
made since then. An undo that finds none takes back the load, unless the changes since then have
once filled the history: recording the one that filled it dropped the state at the bottom.
-/

namespace PageBuilder

namespace History

variable {α : Type} {h h' : History α} {current other : α}

/-- The history with one more state before all others. -/
def onto (h : History α) (oldest : Snapshot α) : History α :=
  { h with past := h.past ++ [oldest] }

/-- The past has as many states as the history keeps. -/
def Full (h : History α) : Prop := 0 < h.limit ∧ h.limit ≤ h.past.length

/-- One more state stays within the limit, also when everything undone is redone. -/
def HasRoom (h : History α) : Prop := 0 < h.limit → h.levels < h.limit

theorem HasRoom.not_full (hroom : h.HasRoom) : ¬ h.Full := by
  rintro ⟨hlimit, hfull⟩
  have hlevels := hroom hlimit
  unfold levels at hlevels
  omega

theorem push_of_room (label : String) (hroom : 0 < h.limit → h.past.length < h.limit) :
    h.push current label = ⟨⟨current, label⟩ :: h.past, [], h.limit⟩ := by
  have hkept : ¬ (0 < h.limit ∧ h.limit < h.past.length + 1) := by omega
  simp only [push, List.length_cons, Bool.and_eq_true, decide_eq_true_eq, if_neg hkept]

theorem push_of_full (label : String) (hfull : h.Full) :
    h.push current label = ⟨(⟨current, label⟩ :: h.past).dropLast, [], h.limit⟩ := by
  have hdrops : 0 < h.limit ∧ h.limit < h.past.length + 1 := ⟨hfull.1, Nat.lt_succ_of_le hfull.2⟩
  simp only [push, List.length_cons, Bool.and_eq_true, decide_eq_true_eq, if_pos hdrops]

/-- A history stays full, so one that is not full after a change had room for two states before. -/
theorem room_of_push_not_full {label : String} (hfull : ¬ (h.push current label).Full)
    (hlimit : 0 < h.limit) : h.past.length + 1 < h.limit := by
  by_contra hmany
  apply hfull
  rcases Nat.lt_or_ge h.past.length h.limit with hroom | hpast
  · rw [push_of_room label fun _ => hroom]
    exact ⟨hlimit, Nat.not_lt.1 hmany⟩
  · -- dropping the oldest state makes up for the new one
    rw [push_of_full label ⟨hlimit, hpast⟩]
    refine ⟨hlimit, ?_⟩
    rw [List.length_dropLast]
    exact hpast

/-- A recorded change leaves nothing to redo, so its past is all that takes room. -/
theorem push_hasRoom {label : String} (hfull : ¬ (h.push current label).Full) :
    (h.push current label).HasRoom := by
  have hroom := room_of_push_not_full hfull
  rw [push_of_room label fun hlimit => Nat.lt_of_succ_lt (hroom hlimit)]
  exact hroom

/-- Recording a change that does not fill the history leaves the oldest state at the bottom. -/
theorem push_onto {label : String} (oldest : Snapshot α)
    (hfull : ¬ (h.push current label).Full) :
    (h.onto oldest).push current label = (h.push current label).onto oldest := by
  have hroom := room_of_push_not_full hfull
  have honto : 0 < (h.onto oldest).limit → (h.onto oldest).past.length < (h.onto oldest).limit := by
    intro hlimit
    rw [onto, List.length_append]
    exact hroom hlimit
  rw [push_of_room label honto, push_of_room label fun hlimit => Nat.lt_of_succ_lt (hroom hlimit)]
  rfl

/-- Recording the change that fills the history drops the state at the bottom. -/
theorem push_onto_full {label : String} (oldest : Snapshot α) (hroom : h.HasRoom)
    (hfull : (h.push current label).Full) :
    (h.onto oldest).push current label = h.push current label := by
  have hpast : 0 < h.limit → h.past.length < h.limit :=
    fun hlimit => Nat.lt_of_le_of_lt (Nat.le_add_right _ _) (hroom hlimit)
  rw [push_of_room label hpast] at hfull ⊢
  have honto : (h.onto oldest).Full := by
    refine ⟨hfull.1, ?_⟩
    rw [onto, List.length_append]
    exact hfull.2
  rw [push_of_full label honto, onto, ← List.cons_append, List.dropLast_concat]

theorem undo?_onto (oldest : Snapshot α) (hundo : h.undo? current = some (other, h')) :
    (h.onto oldest).undo? current = some (other, h'.onto oldest) := by
  obtain ⟨label, past, hpast, rfl⟩ := undo?_eq_some hundo
  simp only [onto, undo?, hpast, List.cons_append]

theorem HasRoom.undo (hroom : h.HasRoom) (hundo : h.undo? current = some (other, h')) :
    h'.HasRoom := by
  obtain ⟨label, past, hpast, rfl⟩ := undo?_eq_some hundo
  intro hlimit
  have hlevels := hroom hlimit
  simp only [levels, hpast, List.length_cons] at hlevels ⊢
  omega

theorem undo?_onto_bottom (oldest : Snapshot α) (hundo : h.undo? current = none) :
    (h.onto oldest).undo? current =
      some (oldest.state, ⟨[], ⟨current, oldest.label⟩ :: h.future, h.limit⟩) := by
  unfold undo? at hundo
  split at hundo
  · next hpast => simp only [onto, undo?, hpast, List.nil_append]
  · cases hundo

theorem redo?_onto (oldest : Snapshot α) (hredo : h.redo? current = some (other, h')) :
    (h.onto oldest).redo? current = some (other, h'.onto oldest) := by
  obtain ⟨label, future, hfuture, rfl⟩ := redo?_eq_some hredo
  simp only [onto, redo?, hfuture, List.cons_append]

theorem HasRoom.redo (hroom : h.HasRoom) (hredo : h.redo? current = some (other, h')) :
    h'.HasRoom := by
  obtain ⟨label, future, hfuture, rfl⟩ := redo?_eq_some hredo
  intro hlimit
  have hlevels := hroom hlimit
  simp only [levels, hfuture, List.length_cons] at hlevels ⊢
  omega

theorem redo?_onto_none (oldest : Snapshot α) (hredo : h.redo? current = none) :
    (h.onto oldest).redo? current = none := by
  unfold redo? at hredo ⊢
  split at hredo
  · next hfuture => simp only [onto, hfuture]
  · cases hredo

end History

namespace Editor

/-- The session as one that begins with its current state: nothing can be undone or redone. -/
def fromHere (e : Editor) : Editor := { e with history := e.history.clear }

/-- The session with one more state at the bottom of its history. -/
def onto (e : Editor) (oldest : Snapshot EditorState) : Editor :=
  { e with history := e.history.onto oldest }

/-- The history is full after some part of the script. -/
def Filled (e : Editor) (script : List (Int × String)) : Prop :=
  ∃ reached, reached <+: script ∧ (e.runPayloads reached).2.history.Full

/-- Every undo of the script takes back a change that the session recorded, or comes after the
history was full. -/
def OwnUndos (e : Editor) (script : List (Int × String)) : Prop :=
  ∀ before p, before ++ [p] <+: script → Command.ofPayload? p.2 = some .undo →
    ((e.runPayloads before).2.stepPayload p.1 p.2).1 = .ok .applied ∨ e.Filled before

/-- What becomes of a history: the state is recorded under a name, or nothing is. -/
def recording (h : History EditorState) (before : EditorState) : Option String →
    History EditorState
  | some label => h.push before label
  | none => h

/-- A step that does not read the history, and records the same whatever the history is. -/
def IgnoresHistory (e : Editor) (now : Int) (c : Command) : Prop :=
  ∃ label : Option String, ∀ h : History EditorState,
    { e with history := h }.step now c =
      ((e.step now c).1, { (e.step now c).2 with history := recording h e.state label })

variable {e : Editor} {now : Int}

/-- The commands that edit the active forest share one step. -/
theorem ignoresHistory_of_commitForest {c : Command} (label : String)
    (result : EditorState → Option Forest)
    (hstep : ∀ e : Editor, e.step now c = accepted (e.commitForest label (result e.state))) :
    e.IgnoresHistory now c := by
  unfold IgnoresHistory
  simp only [hstep]
  cases result e.state with
  | none => exact ⟨none, fun h => rfl⟩
  | some after => exact ⟨some label, fun h => rfl⟩

/-- Only undoing and redoing read the history. -/
theorem ignoresHistory (e : Editor) (now : Int) {c : Command} (hundo : c ≠ .undo)
    (hredo : c ≠ .redo) : e.IgnoresHistory now c := by
  cases c with
  | undo => exact absurd rfl hundo
  | redo => exact absurd rfl hredo
  | addElement element =>
    simp only [IgnoresHistory, step, addElement]
    cases (e.guard.offer ⟨element.type, element.node.position, now⟩).1 with
    | true => exact ⟨some "Add element", fun h => rfl⟩
    | false => exact ⟨none, fun h => rfl⟩
  | updateElement id patch =>
    exact ignoresHistory_of_commitForest _ (fun s => Forest.update? s.elements id patch)
      fun _ => rfl
  | moveElement id position =>
    exact ignoresHistory_of_commitForest _ (fun s => Forest.reposition? s.elements id position)
      fun _ => rfl
  | resizeElement id size =>
    exact ignoresHistory_of_commitForest _ (fun s => Forest.resize? s.elements id size)
      fun _ => rfl
  | reorderElements order =>
    exact ignoresHistory_of_commitForest _ (fun s => Forest.reorder? s.elements order)
      fun _ => rfl
  | deleteElement id =>
    simp only [IgnoresHistory, step, deleteElement]
    cases Forest.delete? e.state.elements id with
    | none => exact ⟨none, fun h => rfl⟩
    | some after =>
      refine ⟨some "Delete element", fun h => ?_⟩
      simp only [commitForest, commit]
      cases deletesSelection e.state id <;> rfl
  | selectElement id => exact ⟨none, fun h => rfl⟩
  | setZoom zoom =>
    simp only [IgnoresHistory, step]
    cases zoom.isFinite <;> exact ⟨none, fun h => rfl⟩
  | setCanvasSize width height =>
    simp only [IgnoresHistory, step]
    cases (validLength width && validLength height) <;> exact ⟨none, fun h => rfl⟩
  | loadTemplate elements => exact ⟨some "Load template", fun h => rfl⟩
  | loadProject sections active =>
    simp only [IgnoresHistory, step, loadProject]
    cases (active.filter sections.withSingleHome.contains).or
        (sections.withSingleHome.home?.map Section.id) with
    | none => exact ⟨none, fun h => rfl⟩
    | some opened => exact ⟨some "Load project", fun h => rfl⟩
  | clearCanvas => exact ⟨some "Clear canvas", fun h => rfl⟩
  | addSection name => exact ⟨some "Add section", fun h => rfl⟩
  | removeSection id =>
    simp only [IgnoresHistory, step, removeSection]
    cases e.state.sections.get? id with
    | none => exact ⟨none, fun h => rfl⟩
    | some removed =>
      dsimp only
      cases removed.isHome with
      | true => exact ⟨none, fun h => rfl⟩
      | false => exact ⟨some "Remove section", fun h => rfl⟩
  | switchSection id =>
    simp only [IgnoresHistory, step]
    cases e.state.sections.contains id <;> exact ⟨none, fun h => rfl⟩

/-- The session `e` is `k` with the oldest state at the bottom of its history, or `k` itself once
that state is dropped. -/
def StandsOn (oldest : Snapshot EditorState) (dropped : Prop) (e k : Editor) : Prop :=
  dropped ∧ e = k ∨ ¬ dropped ∧ k.history.HasRoom ∧ e = k.onto oldest

variable {k : Editor} (oldest : Snapshot EditorState)

theorem step_undo_onto (hroom : k.history.HasRoom) (hown : (k.step now .undo).1 = .ok .applied) :
    ((k.onto oldest).step now .undo).1 = (k.step now .undo).1 ∧
      StandsOn oldest (k.step now .undo).2.history.Full ((k.onto oldest).step now .undo).2
        (k.step now .undo).2 := by
  cases hundo : k.history.undo? k.state with
  | none =>
    have hidle : (k.step now .undo).1 = .ok .unchanged := by
      simp only [step, hundo, restore, accepted]
    cases hidle.symm.trans hown
  | some p =>
    have honto := History.undo?_onto oldest hundo
    have hnext := hroom.undo hundo
    simp only [step, onto, hundo, honto, restore, accepted, true_and]
    exact Or.inr ⟨hnext.not_full, hnext, rfl⟩

theorem step_redo_onto (hroom : k.history.HasRoom) :
    ((k.onto oldest).step now .redo).1 = (k.step now .redo).1 ∧
      StandsOn oldest (k.step now .redo).2.history.Full ((k.onto oldest).step now .redo).2
        (k.step now .redo).2 := by
  cases hredo : k.history.redo? k.state with
  | none =>
    have honto := History.redo?_onto_none oldest hredo
    simp only [step, onto, hredo, honto, restore, accepted, true_and]
    exact Or.inr ⟨hroom.not_full, hroom, rfl⟩
  | some p =>
    have honto := History.redo?_onto oldest hredo
    have hnext := hroom.redo hredo
    simp only [step, onto, hredo, honto, restore, accepted, true_and]
    exact Or.inr ⟨hnext.not_full, hnext, rfl⟩

/-- What a history becomes on the oldest state. -/
theorem recording_onto (hroom : k.history.HasRoom) (label : Option String) :
    let next := recording k.history k.state label
    next.Full ∧ recording (k.history.onto oldest) k.state label = next ∨
      ¬ next.Full ∧ next.HasRoom ∧
        recording (k.history.onto oldest) k.state label = next.onto oldest := by
  intro next
  cases label with
  | none => exact Or.inr ⟨hroom.not_full, hroom, rfl⟩
  | some label =>
    by_cases hfull : next.Full
    · exact Or.inl ⟨hfull, History.push_onto_full oldest hroom hfull⟩
    · exact Or.inr ⟨hfull, History.push_hasRoom hfull, History.push_onto oldest hfull⟩

/-- A step on the oldest state goes as without it, unless it is an undo that finds nothing. Filling
the history is what drops the oldest state. -/
theorem step_onto (hroom : k.history.HasRoom) (c : Command)
    (hown : c = .undo → (k.step now c).1 = .ok .applied) :
    ((k.onto oldest).step now c).1 = (k.step now c).1 ∧
      StandsOn oldest (k.step now c).2.history.Full ((k.onto oldest).step now c).2
        (k.step now c).2 := by
  by_cases hundo : c = .undo
  · subst hundo
    exact step_undo_onto oldest hroom (hown rfl)
  by_cases hredo : c = .redo
  · subst hredo
    exact step_redo_onto oldest hroom
  -- any other command does with both histories what it does with one
  obtain ⟨label, halike⟩ := ignoresHistory k now hundo hredo
  have hstep : k.step now c = _ := halike k.history
  have honto : (k.onto oldest).step now c = _ := halike (k.history.onto oldest)
  have hhistory : (k.step now c).2.history = recording k.history k.state label :=
    congrArg (fun x => x.2.history) hstep
  have hnext := recording_onto oldest hroom label
  rw [← hhistory] at hnext
  rw [honto]
  refine ⟨rfl, ?_⟩
  rcases hnext with ⟨hfull, hsame⟩ | ⟨hfull, hstill, hbelow⟩
  · rw [hsame]
    exact Or.inl ⟨hfull, rfl⟩
  · rw [hbelow]
    exact Or.inr ⟨hfull, hstill, rfl⟩

theorem stepPayload_of {c : Command} {payload : String}
    (hcommand : Command.ofPayload? payload = some c) (e : Editor) (now : Int) :
    e.stepPayload now payload = e.step now c := by
  simp only [stepPayload, hcommand]

theorem stepPayload_onto (hroom : k.history.HasRoom) (now : Int) (payload : String)
    (hown : Command.ofPayload? payload = some .undo →
      (k.stepPayload now payload).1 = .ok .applied) :
    ((k.onto oldest).stepPayload now payload).1 = (k.stepPayload now payload).1 ∧
      StandsOn oldest (k.stepPayload now payload).2.history.Full
        ((k.onto oldest).stepPayload now payload).2 (k.stepPayload now payload).2 := by
  cases hcommand : Command.ofPayload? payload with
  | none =>
    simp only [stepPayload, hcommand, true_and]
    exact Or.inr ⟨hroom.not_full, hroom, rfl⟩
  | some c =>
    simp only [stepPayload_of hcommand] at hown ⊢
    refine step_onto oldest hroom c fun hc => hown ?_
    rw [hcommand, hc]

theorem runPayloads_concat (e : Editor) (script : List (Int × String)) (p : Int × String) :
    e.runPayloads (script ++ [p]) =
      ((e.runPayloads script).1 ++ [((e.runPayloads script).2.stepPayload p.1 p.2).1],
        ((e.runPayloads script).2.stepPayload p.1 p.2).2) := by
  unfold runPayloads
  rw [runMachine_append]
  rfl

theorem filled_concat (e : Editor) (script : List (Int × String)) (p : Int × String) :
    e.Filled (script ++ [p]) ↔
      e.Filled script ∨ (e.runPayloads (script ++ [p])).2.history.Full := by
  constructor
  · rintro ⟨reached, hreached, hfull⟩
    rcases List.prefix_concat_iff.1 hreached with rfl | hbefore
    · exact Or.inr hfull
    · exact Or.inl ⟨reached, hbefore, hfull⟩
  · rintro (⟨reached, hreached, hfull⟩ | hfull)
    · exact ⟨reached, hreached.trans (List.prefix_append _ _), hfull⟩
    · exact ⟨_, List.prefix_refl _, hfull⟩

theorem ownUndos_concat (e : Editor) (script : List (Int × String)) (p : Int × String) :
    e.OwnUndos (script ++ [p]) ↔ e.OwnUndos script ∧
      (Command.ofPayload? p.2 = some .undo →
        ((e.runPayloads script).2.stepPayload p.1 p.2).1 = .ok .applied ∨ e.Filled script) := by
  constructor
  · intro hown
    refine ⟨fun before q hbefore => ?_, hown script p (List.prefix_refl _)⟩
    exact hown before q (hbefore.trans (List.prefix_append _ _))
  · rintro ⟨hown, hlast⟩ before q hbefore
    rcases List.prefix_concat_iff.1 hbefore with hwhole | hinside
    · obtain ⟨rfl, hq⟩ := List.append_inj' hwhole rfl
      obtain rfl : q = p := List.singleton_inj.1 hq
      exact hlast
    · exact hown before q hinside

theorem ownUndos_nil (e : Editor) : e.OwnUndos [] := by
  intro before p hbefore
  have hnone := List.prefix_nil.1 hbefore
  simp only [List.append_eq_nil_iff, List.cons_ne_self, and_false] at hnone

/-- A session that begins here has nothing of its own to undo at first. -/
theorem not_ownUndos_fromHere (e : Editor) {p : Int × String}
    (hundo : Command.ofPayload? p.2 = some .undo) : ¬ e.fromHere.OwnUndos [p] := by
  intro hown
  rcases hown [] p (List.prefix_refl _) hundo with happlied | ⟨reached, hreached, hlimit, hpast⟩
  · rw [stepPayload_of hundo] at happlied
    cases happlied
  · rw [List.prefix_nil.1 hreached] at hlimit hpast
    exact absurd hlimit (Nat.not_lt.2 hpast)

/-- A run on the oldest state goes as without it, as long as every undo takes back a change of the
run. -/
theorem runPayloads_onto (hroom : k.history.HasRoom) (script : List (Int × String))
    (hown : k.OwnUndos script) :
    ((k.onto oldest).runPayloads script).1 = (k.runPayloads script).1 ∧
      StandsOn oldest (k.Filled script) ((k.onto oldest).runPayloads script).2
        (k.runPayloads script).2 := by
  induction script using List.reverseRecOn with
  | nil =>
    refine ⟨rfl, Or.inr ⟨?_, hroom, rfl⟩⟩
    rintro ⟨reached, hreached, hfull⟩
    rw [List.prefix_nil.1 hreached] at hfull
    exact hroom.not_full hfull
  | append_singleton script p ih =>
    obtain ⟨hbefore, hlast⟩ := (ownUndos_concat k script p).1 hown
    obtain ⟨hanswers, hstands⟩ := ih hbefore
    rw [filled_concat, runPayloads_concat, runPayloads_concat, hanswers]
    rcases hstands with ⟨hfilled, hsame⟩ | ⟨hfilled, hstill, honto⟩
    · -- the oldest state is gone for good, so that even an undo that finds nothing agrees
      rw [hsame]
      exact ⟨rfl, Or.inl ⟨Or.inl hfilled, rfl⟩⟩
    · rw [honto]
      obtain ⟨hanswer, hnext⟩ := stepPayload_onto oldest hstill p.1 p.2
        fun hundo => (hlast hundo).resolve_right hfilled
      rw [hanswer]
      refine ⟨rfl, ?_⟩
      rcases hnext with ⟨hfull, hsame⟩ | ⟨hfull, hstill, honto⟩
      · exact Or.inl ⟨Or.inr hfull, hsame⟩
      · exact Or.inr ⟨fun h => h.elim hfilled hfull, hstill, honto⟩

/-- The session after an undo that finds no change of its own and takes back the oldest state. -/
def atBottom (k : Editor) (oldest : Snapshot EditorState) : Editor :=
  { k with
    state := oldest.state
    history := ⟨[], ⟨k.state, oldest.label⟩ :: k.history.future, k.history.limit⟩ }

theorem step_undo_bottom (h : (k.step now .undo).1 ≠ .ok .applied) :
    (k.onto oldest).step now .undo = (.ok .applied, k.atBottom oldest) := by
  cases hpast : k.history.undo? k.state with
  | none =>
    have honto := History.undo?_onto_bottom oldest hpast
    simp only [step, onto, honto, restore, accepted]
    rfl
  | some p =>
    refine absurd ?_ h
    simp only [step, hpast, restore, accepted]

/-- The first undo of a script that finds no change of the script takes back the oldest state. -/
theorem runPayloads_onto_bottom (hroom : k.history.HasRoom) {script : List (Int × String)}
    {p : Int × String} (hown : k.OwnUndos script) (hlast : ¬ k.OwnUndos (script ++ [p])) :
    (k.onto oldest).runPayloads (script ++ [p]) =
      ((k.runPayloads script).1 ++ [.ok .applied], (k.runPayloads script).2.atBottom oldest) := by
  rw [ownUndos_concat, not_and, Classical.not_imp, not_or] at hlast
  obtain ⟨hundo, hidle, hfilled⟩ := hlast hown
  obtain ⟨hanswers, hstands⟩ := runPayloads_onto oldest hroom script hown
  rw [stepPayload_of hundo] at hidle
  rcases hstands with ⟨hdropped, -⟩ | ⟨-, -, honto⟩
  · exact absurd hdropped hfilled
  · rw [runPayloads_concat, hanswers, honto, stepPayload_of hundo, step_undo_bottom oldest hidle]

section UndosRedos

/-- Between the oldest state and the one above it undoing and redoing go back and forth. -/
theorem step_undo_between (now : Int) {e : Editor}
    (hat : e = k.fromHere.onto oldest ∨ e = k.fromHere.atBottom oldest) :
    (e.step now .undo).2 = k.fromHere.atBottom oldest := by
  rcases hat with rfl | rfl <;> rfl

theorem step_redo_between (now : Int) {e : Editor}
    (hat : e = k.fromHere.onto oldest ∨ e = k.fromHere.atBottom oldest) :
    (e.step now .redo).2 = k.fromHere.onto oldest := by
  rcases hat with rfl | rfl <;> rfl

/-- The payload carries an undo or a redo. -/
def UndoesOrRedoes (payload : String) : Prop :=
  Command.ofPayload? payload = some .undo ∨ Command.ofPayload? payload = some .redo

/-- A script of nothing but undos and redos on one change has taken it back after an undo, and not
after a redo. -/
theorem runPayloads_undosRedos (script : List (Int × String)) (p : Int × String)
    (hall : ∀ q ∈ script ++ [p], UndoesOrRedoes q.2) :
    (Command.ofPayload? p.2 = some .undo →
      ((k.fromHere.onto oldest).runPayloads (script ++ [p])).2 = k.fromHere.atBottom oldest) ∧
    (Command.ofPayload? p.2 = some .redo →
      ((k.fromHere.onto oldest).runPayloads (script ++ [p])).2 = k.fromHere.onto oldest) := by
  have hat : ((k.fromHere.onto oldest).runPayloads script).2 = k.fromHere.onto oldest ∨
      ((k.fromHere.onto oldest).runPayloads script).2 = k.fromHere.atBottom oldest := by
    induction script using List.reverseRecOn generalizing p with
    | nil => exact Or.inl rfl
    | append_singleton script q ih =>
      -- wherever the script before stands, its last command says where it stands now
      have hbefore := ih q fun x hx => hall x (List.mem_append_left _ hx)
      rw [runPayloads_concat]
      rcases hall q (by simp) with hundo | hredo
      · rw [stepPayload_of hundo]
        exact Or.inr (step_undo_between oldest q.1 hbefore)
      · rw [stepPayload_of hredo]
        exact Or.inl (step_redo_between oldest q.1 hbefore)
  rw [runPayloads_concat]
  constructor
  · intro hundo
    rw [stepPayload_of hundo]
    exact step_undo_between oldest p.1 hat
  · intro hredo
    rw [stepPayload_of hredo]
    exact step_redo_between oldest p.1 hat

end UndosRedos

/-- Sections with a home section are loaded, and the state before is recorded. -/
theorem loadProject_records (e : Editor) {sections : Sections} (h : sections.entries ≠ []) :
    ∃ loaded, e.loadProject sections none = (.ok .applied, loaded) ∧
      loaded.state.sections = sections.withSingleHome ∧
      loaded.history = e.history.push e.state "Load project" := by
  obtain ⟨home, hhome⟩ := Sections.exists_homeEntry? h
  have hopened : (Option.filter sections.withSingleHome.contains none).or
      (sections.withSingleHome.home?.map Section.id) = some home.2.id := by
    rw [Sections.withSingleHome_homeId, Sections.home?_eq, hhome]
    rfl
  unfold loadProject
  simp only [hopened]
  exact ⟨_, rfl, rfl, rfl⟩

/-- Loading sections into a new session puts its blank state at the bottom of the history. -/
theorem new_loadProject (config : EditorConfig) (key : String) (now : Int) {sections : Sections}
    (h : sections.entries ≠ []) :
    ∃ loaded, (Editor.new config key).step now (.loadProject sections none) =
        (.ok .applied, loaded) ∧
      loaded.state.sections = sections.withSingleHome ∧ loaded.fromHere.history.HasRoom ∧
      loaded = loaded.fromHere.onto ⟨(Editor.new config key).state, "Load project"⟩ := by
  obtain ⟨loaded, hstep, hsections, hhistory⟩ := loadProject_records (Editor.new config key) h
  have hone : loaded.history =
      ⟨[⟨(Editor.new config key).state, "Load project"⟩], [], config.maxHistory⟩ := by
    rw [hhistory]
    exact History.push_of_room _ fun hlimit => hlimit
  -- a limit holds at least one state, so the blank one is kept whatever the limit is
  refine ⟨loaded, hstep, hsections, fun hlimit => hlimit, ?_⟩
  unfold onto fromHere History.onto History.clear
  rw [hone]
  cases loaded
  cases hone
  rfl

end Editor

end PageBuilder
