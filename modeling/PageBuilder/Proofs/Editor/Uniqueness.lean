import PageBuilder.Proofs.Editor.Freshness

/-!
Unique ids. A session whose commands bring no ids along, except in well-formed projects, never has
an id twice in one of its states. The invariant is that every state has its ids once and that none
of them is ahead of the source, so that an id handed out later differs from all of them.
-/

namespace PageBuilder

open Editor (projectIds)

/-- A loaded project has its sections under their own ids and every id once, and an update brings no
children unless it only gives an order. -/
def Command.WellFormed : Command → Prop
  | .updateElement id patch => id = reorderId ∨ patch.children = none
  | .loadProject sections _ =>
    (∀ entry ∈ sections.entries, entry.1 = entry.2.id) ∧ (projectIds sections).Nodup
  | _ => True

instance : DecidablePred Command.WellFormed
  | .updateElement id patch => inferInstanceAs (Decidable (id = reorderId ∨ patch.children = none))
  | .loadProject sections _ => inferInstanceAs
      (Decidable ((∀ entry ∈ sections.entries, entry.1 = entry.2.id) ∧ (projectIds sections).Nodup))
  | .addElement _ | .deleteElement _ | .selectElement _ | .moveElement _ _ | .resizeElement _ _
  | .reorderElements _ | .setZoom _ | .setCanvasSize _ _ | .loadTemplate _ | .clearCanvas
  | .addSection _ | .removeSection _ | .switchSection _ | .undo | .redo => .isTrue trivial

namespace Editor

/-- Every id of the session's states is there once in its state. -/
def UniqueIds (e : Editor) : Prop := ∀ s ∈ e.states, (projectIds s.sections).Nodup

variable {e : Editor} {now : Int} {c : Command}

theorem wellFormed_foreignIds (h : c.WellFormed)
    (hload : ∀ sections active, c ≠ .loadProject sections active) : c.foreignIds = [] := by
  cases c with
  | updateElement id patch =>
    simp only [Command.foreignIds]
    split
    · rfl
    · next hid =>
      have hnone : patch.children = none := h.resolve_left hid
      rw [hnone]
      rfl
  | loadProject sections active => exact absurd rfl (hload sections active)
  | _ => rfl

theorem records_project {sections : Sections} {active : Option String} {s : EditorState}
    {ids : IdSource} {guard : AddGuard}
    (h : Records e now (.loadProject sections active) s ids guard) :
    s.sections = sections.withSingleHome ∧ ids = e.ids.advancePast (projectIds sections) := by
  cases h with
  | edit _ _ _ hedit => exact hedit.elim
  | project => exact ⟨rfl, by rw [Sections.projectIds_withSingleHome]⟩

/-- The source is moved past all ids of a project whose keys are its section ids. -/
theorem wellFormed_passesForeign (h : c.WellFormed) : e.PassesForeign now c := by
  intro happlied id hid
  by_cases hload : ∃ sections active, c = .loadProject sections active
  · obtain ⟨sections, active, rfl⟩ := hload
    have hproject : id ∈ projectIds sections := by
      rcases List.mem_append.1 hid with hkey | hid
      · obtain ⟨entry, hentry, rfl⟩ := List.mem_map.1 hkey
        rw [h.1 entry hentry, projectIds_eq]
        exact List.mem_flatMap.2 ⟨entry, hentry, List.mem_cons_self ..⟩
      · exact hid
    obtain ⟨r, e', hstep, hdid⟩ := exists_did e now (.loadProject sections active)
    rw [hstep] at happlied ⊢
    cases hdid with
    | nothing _ _ hr => exact absurd happlied hr
    | amended _ _ hnext => exact hnext.elim
    | recorded _ label next ids guard hnext =>
      rw [(records_project hnext).2]
      exact IdSource.not_ahead_advancePast e.ids hproject
  · rw [wellFormed_foreignIds h fun sections active hc => hload ⟨sections, active, hc⟩] at hid
    cases hid

theorem new_uniqueIds (config : EditorConfig) (key : String) :
    (Editor.new config key).UniqueIds := by
  intro s hs
  have hstates : (Editor.new config key).states = [(Editor.new config key).state] := rfl
  rw [hstates, List.mem_singleton] at hs
  subst hs
  exact List.nodup_singleton homeSectionId

/-- Ids that are new and ids that were there before come together without a double. -/
theorem records_nodup {s : EditorState} {ids : IdSource} {guard : AddGuard}
    (h : Records e now c s ids guard) (hnone : e.NoneAhead) (hunique : e.UniqueIds)
    (hroom : e.RoomFor now c) (hformed : c.WellFormed) : (projectIds s.sections).Nodup := by
  by_cases hload : ∃ sections active, c = .loadProject sections active
  · -- a project replaces all sections, so that only its own ids count
    obtain ⟨sections, active, rfl⟩ := hload
    rw [(records_project h).1, Sections.projectIds_withSingleHome]
    exact hformed.2
  · have hforeign : c.foreignIds = [] :=
      wellFormed_foreignIds hformed fun sections active hc => hload ⟨sections, active, hc⟩
    rcases records_count h with ⟨sections, active, hc, -⟩ | hcount
    · exact absurd ⟨sections, active, hc⟩ hload
    have hnew : (e.newIds now c).Nodup := (records_handsOut h hroom).nodup
    have hold : (projectIds e.state.sections).Nodup := hunique e.state (List.mem_cons_self ..)
    have hfree : ∀ id ∈ e.newIds now c, id ∉ projectIds e.state.sections := by
      intro id hid htaken
      apply newIdsFree_iff.2 hnone now c hroom id hid
      exact mem_takenIds.2 ⟨e.state, List.mem_cons_self .., List.mem_append_right _ htaken⟩
    have htogether : (e.newIds now c ++ projectIds e.state.sections).Nodup := by
      refine List.nodup_append.2 ⟨hnew, hold, ?_⟩
      rintro id hid _ htaken rfl
      exact hfree id hid htaken
    refine List.nodup_iff_count_le_one.2 fun id => ?_
    calc (projectIds s.sections).count id
        ≤ (e.newIds now c).count id + c.foreignIds.count id +
            (projectIds e.state.sections).count id := hcount id
      _ = (e.newIds now c ++ projectIds e.state.sections).count id := by
          rw [hforeign, List.count_nil, List.count_append, Nat.add_zero]
      _ ≤ 1 := List.nodup_iff_count_le_one.1 htogether id

theorem step_uniqueIds (hnone : e.NoneAhead) (hunique : e.UniqueIds) (hroom : e.RoomFor now c)
    (hformed : c.WellFormed) : (e.step now c).2.UniqueIds := by
  intro s hs
  rcases step_states e now c hs with hold | hamends | ⟨-, guard, hrecords⟩
  · exact hunique s hold
  · rw [amends_sections hamends]
    exact hunique e.state (List.mem_cons_self ..)
  · exact records_nodup hrecords hnone hunique hroom hformed

theorem after_uniqueIds (e : Editor) (script : List (Int × Command)) (hnone : e.NoneAhead)
    (hunique : e.UniqueIds) (hroom : Along RoomFor e script)
    (hformed : ∀ entry ∈ script, entry.2.WellFormed) : (e.after script).UniqueIds := by
  -- the ids stay distinct as long as none of them is still to be handed out
  refine (Along.after (Q := fun x => x.NoneAhead ∧ x.UniqueIds) ?_
    (hroom.and_forall hformed) ⟨hnone, hunique⟩).2
  rintro x now c ⟨hroom, hformed⟩ ⟨hnone, hunique⟩
  have hpasses : x.PassesForeign now c := wellFormed_passesForeign hformed
  exact ⟨step_noneAhead hnone hroom hpasses, step_uniqueIds hnone hunique hroom hformed⟩

/-- In every session whose loaded projects are well-formed and whose updates bring no children, the
ids of all sections and of all their elements are distinct, in the current state and in every state
of the history. -/
theorem ids_stay_unique (config : EditorConfig) (key : String) (script : List (Int × Command))
    (hroom : Along RoomFor (Editor.new config key) script)
    (hformed : ∀ entry ∈ script, entry.2.WellFormed) :
    ∀ s ∈ ((Editor.new config key).after script).states, (projectIds s.sections).Nodup :=
  after_uniqueIds _ script (new_noneAhead config key) (new_uniqueIds config key) hroom hformed

/-- An add, a project that has an id of the session in it, two sections and a change taken back. -/
def projectReloaded : List (Int × Command) :=
  [(0, .addElement (.new "a" .container)),
    (1, .loadProject (SortedMap.empty.insert "f6e9fbe0-7" (.home "f6e9fbe0-7" "Start")) none),
    (2, .addSection "About"), (3, .addSection "Contact"), (4, .undo)]

theorem ids_stay_unique_project_reloaded :
    Along RoomFor (Editor.new {} "oracle") projectReloaded ∧
      (∀ entry ∈ projectReloaded, entry.2.WellFormed) ∧
      ∀ s ∈ ((Editor.new {} "oracle").after projectReloaded).states,
        (projectIds s.sections).Nodup := by
  have hroom : Along RoomFor (Editor.new {} "oracle") projectReloaded := by decide +kernel
  have hformed : ∀ entry ∈ projectReloaded, entry.2.WellFormed := by decide +kernel
  exact ⟨hroom, hformed, ids_stay_unique {} "oracle" projectReloaded hroom hformed⟩

end Editor

end PageBuilder
