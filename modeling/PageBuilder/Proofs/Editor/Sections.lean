import PageBuilder.Proofs.Editor.Uniqueness
import PageBuilder.Proofs.Section

/-!
The sections of a session. As long as every loaded project has its sections under their own ids, so
has every state of the session; one of the sections is open, and exactly one is home.
-/

namespace PageBuilder

/-- The command loads no project, or one with its sections under their own ids. -/
def Command.LoadsKeyedById : Command → Prop
  | .loadProject sections _ => sections.KeyedById
  | _ => True

instance : DecidablePred Command.LoadsKeyedById
  | .loadProject sections _ => inferInstanceAs (Decidable sections.KeyedById)
  | .addElement _ | .updateElement _ _ | .deleteElement _ | .selectElement _ | .moveElement _ _
  | .resizeElement _ _ | .reorderElements _ | .setZoom _ | .setCanvasSize _ _ | .loadTemplate _
  | .clearCanvas | .addSection _ | .removeSection _ | .switchSection _ | .undo | .redo =>
    .isTrue trivial

namespace EditorState

/-- The sections of a state stand under their own ids, the open one is among them, and exactly one
is marked home, which is the one that counts as home. -/
structure SoundSections (s : EditorState) : Prop where
  keyed : s.sections.KeyedById
  opened : s.sections.contains s.activeSection = true
  singleHome : ∃ key, s.sections.homes.map Prod.fst = [key] ∧ s.homeId? = some key

theorem SoundSections.of_homeKeys {s : EditorState} (hkeyed : s.sections.KeyedById)
    (hopened : s.sections.contains s.activeSection = true) {key : String}
    (hkeys : s.sections.homes.map Prod.fst = [key]) : s.SoundSections := by
  -- the section that counts as home is the marked one
  exact ⟨hkeyed, hopened, key, hkeys, (hkeyed.homeKey hkeys).1⟩

/-- Another forest in the active section changes one entry in place. -/
theorem withElements_entries {s : EditorState} {a : Section} (h : s.active? = some a)
    (forest : Forest) :
    ∃ before behind, s.sections.entries = before ++ (s.activeSection, a) :: behind ∧
      (s.withElements forest).sections.entries =
        before ++ (s.activeSection, { a with elements := forest }) :: behind := by
  obtain ⟨before, behind, hentries, -, hinsert⟩ := SortedMap.entries_insert_of_some h
  refine ⟨before, behind, hentries, ?_⟩
  simp only [withElements, h]
  exact hinsert _

theorem withElements_activeSection (s : EditorState) (forest : Forest) :
    (s.withElements forest).activeSection = s.activeSection := by
  unfold withElements
  split <;> rfl

theorem withElements_homeKeys (s : EditorState) (forest : Forest) :
    (s.withElements forest).sections.homes.map Prod.fst = s.sections.homes.map Prod.fst := by
  cases hactive : s.active? with
  | none => rw [(withElements_inactive hactive forest).1]
  | some a =>
    obtain ⟨before, behind, hentries, hafter⟩ := withElements_entries hactive forest
    unfold Sections.homes
    -- the entry that changes keeps its key and its mark
    rw [hentries, hafter, List.filter_append, List.filter_append, List.filter_cons,
      List.filter_cons]
    cases a.isHome <;> simp

theorem withElements_keyedById {s : EditorState} (h : s.sections.KeyedById) (forest : Forest) :
    (s.withElements forest).sections.KeyedById := by
  cases hactive : s.active? with
  | none => rwa [(withElements_inactive hactive forest).1]
  | some a =>
    obtain ⟨before, behind, hentries, hafter⟩ := withElements_entries hactive forest
    intro e he
    unfold Sections.KeyedById at h
    rw [hafter] at he
    rw [hentries] at h
    rcases List.mem_append.1 he with he | he
    · exact h e (List.mem_append_left _ he)
    rcases List.mem_cons.1 he with rfl | he
    · exact h (s.activeSection, a) (List.mem_append_right _ (List.mem_cons_self ..))
    · exact h e (List.mem_append_right _ (List.mem_cons_of_mem _ he))

theorem SoundSections.withElements {s : EditorState} (h : s.SoundSections) (forest : Forest)
    (selected : Option String) :
    SoundSections { s.withElements forest with selected := selected } := by
  obtain ⟨key, hkeys, -⟩ := h.singleHome
  refine .of_homeKeys (withElements_keyedById h.keyed forest) ?_
    ((withElements_homeKeys s forest).trans hkeys)
  have hopened := SortedMap.contains_iff.1 h.opened
  simp only [SortedMap.contains_iff, withElements_activeSection, withElements_keys]
  exact hopened

/-- A section under a new key leaves the home section, if it is not home itself. -/
theorem withSection_homes {s : EditorState} {added : Section} (hnew : added.id ∉ s.sections.keys)
    (hhome : added.isHome = false) :
    (s.withSection added).sections.homes = s.sections.homes := by
  obtain ⟨before, behind, hentries, hinsert⟩ :=
    SortedMap.entries_insert_of_none (SortedMap.get?_eq_none hnew)
  simp only [Sections.homes, withSection, hinsert, hentries, List.filter_append]
  rw [List.filter_cons_of_neg]
  rw [hhome]
  exact Bool.false_ne_true

theorem SoundSections.withSection {s : EditorState} (h : s.SoundSections) {added : Section}
    (hnew : added.id ∉ s.sections.keys) (hhome : added.isHome = false) :
    (s.withSection added).SoundSections := by
  obtain ⟨key, hkeys, -⟩ := h.singleHome
  rw [← withSection_homes hnew hhome] at hkeys
  refine .of_homeKeys ?_ ?_ hkeys
  · intro e he
    rcases mem_insertEntry he with rfl | he
    · rfl
    · exact h.keyed e he
  · exact SortedMap.contains_iff.2 (SortedMap.mem_keys_insert_self ..)

theorem withoutSection_homes {s : EditorState} {key : String} {removed : Section}
    (hget : s.sections.get? key = some removed) (hhome : removed.isHome = false) :
    (s.withoutSection key).sections.homes = s.sections.homes := by
  rw [withoutSection_sections]
  unfold Sections.homes SortedMap.erase
  rw [List.filter_filter]
  apply List.filter_congr
  intro e he
  by_cases hkey : e.1 = key
  · -- the entry that goes is not among those marked home
    have hsection : e.2 = removed := SortedMap.eq_of_get? hget (hkey ▸ he)
    rw [hsection, hhome, Bool.false_and]
  · simp [hkey]

theorem SoundSections.withoutSection {s : EditorState} (h : s.SoundSections) {key : String}
    {removed : Section} (hget : s.sections.get? key = some removed)
    (hhome : removed.isHome = false) : (s.withoutSection key).SoundSections := by
  obtain ⟨homeKey, hkeys, -⟩ := h.singleHome
  have hhomes := withoutSection_homes hget hhome
  rw [← hhomes] at hkeys
  have hkeyed : (s.withoutSection key).sections.KeyedById := by
    intro e he
    rw [withoutSection_sections] at he
    exact h.keyed e (List.mem_of_mem_filter he)
  refine .of_homeKeys hkeyed ?_ hkeys
  rw [SortedMap.contains_iff]
  obtain ⟨hhomeId, hmem⟩ := hkeyed.homeKey hkeys
  rw [withoutSection_sections] at hhomeId hmem ⊢
  by_cases hopen : s.activeSection = key
  · -- the home section opens in place of the removed one
    have hactive : (s.withoutSection key).activeSection = homeKey := by
      simp only [EditorState.withoutSection, hopen, if_true, homeId?, hhomeId, Option.getD_some]
    rwa [hactive]
  · have hactive : (s.withoutSection key).activeSection = s.activeSection := by
      simp only [EditorState.withoutSection, hopen, if_false]
    rw [hactive]
    exact SortedMap.mem_keys_erase.2 ⟨hopen, SortedMap.contains_iff.1 h.opened⟩

theorem opened?_empty (active : Option String) : Editor.opened? SortedMap.empty active = none := by
  cases active <;> rfl

/-- A project whose sections stand under their own ids is sound once one of them is home. -/
theorem SoundSections.loaded {s : EditorState} {sections : Sections} {active : Option String}
    {key : String} (hkeyed : sections.KeyedById)
    (hkey : Editor.opened? sections active = some key) :
    SoundSections { s with
      sections := sections.withSingleHome
      activeSection := key
      selected := none } := by
  -- a section opens, so there is one, and the first that is marked or there at all becomes home
  have hsingle : ∃ homeKey, sections.withSingleHome.homes.map Prod.fst = [homeKey] := by
    have hne : sections.entries ≠ [] := by
      intro hentries
      obtain rfl : sections = SortedMap.empty := SortedMap.ext hentries
      rw [opened?_empty] at hkey
      cases hkey
    obtain ⟨home, hhome⟩ := Sections.exists_homeEntry? hne
    exact ⟨home.1, by rw [Sections.homes_withSingleHome hhome]; rfl⟩
  obtain ⟨homeKey, hkeys⟩ := hsingle
  obtain ⟨hhomeId, hmem⟩ := hkeyed.withSingleHome.homeKey hkeys
  refine .of_homeKeys hkeyed.withSingleHome ?_ hkeys
  unfold Editor.opened? at hkey
  rcases Option.or_eq_some_iff.1 hkey with hasked | ⟨-, hhome⟩
  · exact (Option.filter_eq_some_iff.1 hasked).2
  · rw [hhomeId] at hhome
    obtain rfl := Option.some.inj hhome
    exact SortedMap.contains_iff.2 hmem

theorem new_soundSections (canvas : CanvasSize) : (EditorState.new canvas).SoundSections := by
  have hkeyed : (EditorState.new canvas).sections.KeyedById := by
    intro entry hentry
    obtain rfl := List.mem_singleton.1 hentry
    rfl
  have hkeys : (EditorState.new canvas).sections.homes.map Prod.fst = [homeSectionId] := rfl
  exact .of_homeKeys hkeyed rfl hkeys

end EditorState

namespace Editor

/-- The sections of all states of the session are sound. -/
def SoundSections (e : Editor) : Prop := ∀ s ∈ e.states, s.SoundSections

/-- The source is past the keys of all sections of the session. -/
def KeysPassed (e : Editor) : Prop := ∀ s ∈ e.states, ∀ key ∈ s.sections.keys, ¬ e.ids.Ahead key

variable {e : Editor} {now : Int} {c : Command}

theorem new_states (config : EditorConfig) (key : String) :
    (Editor.new config key).states = [.new ⟨config.canvasWidth, config.canvasHeight⟩] := rfl

theorem new_soundSections (config : EditorConfig) (key : String) :
    (Editor.new config key).SoundSections := by
  intro s hs
  rw [new_states, List.mem_singleton] at hs
  exact hs ▸ EditorState.new_soundSections _

/-- Only the id of the home section is there at the start, and that is not of the source's form. -/
theorem new_keysPassed (config : EditorConfig) (key : String) :
    (Editor.new config key).KeysPassed := by
  intro s hs k hk hahead
  refine new_noneAhead config key k (mem_takenIds.2 ⟨s, hs, List.mem_append_left _ hk⟩) hahead

theorem step_keysPassed (h : e.KeysPassed) (hroom : e.RoomFor now c) (hloads : c.LoadsKeyedById) :
    (e.step now c).2.KeysPassed := by
  intro s hs key hkey hahead
  have hstep := step_handsOut hroom
  have hbefore : ∀ old ∈ e.states, key ∉ old.sections.keys := by
    intro old hold hmem
    exact h old hold key hmem (hstep.ahead hahead)
  have hcurrent : key ∉ e.state.sections.keys := hbefore _ (List.mem_cons_self ..)
  -- a key that is there afterwards was there before, was just handed out or came with a project
  rcases step_states e now c hs with hold | hamends | ⟨-, guard, hrecords⟩
  · exact hbefore s hold hkey
  · rw [amends_sections hamends] at hkey
    exact hcurrent hkey
  · rcases records_keys_cases hrecords hkey with hnew | ⟨sections, active, rfl, hloaded⟩ | hold
    · exact hstep.not_ahead hnew hahead
    · -- that key is the id of its section, which the source has been moved past
      rw [(records_project hrecords).2] at hahead
      obtain ⟨entry, hentry, rfl⟩ := List.mem_map.1 hloaded
      refine IdSource.not_ahead_advancePast e.ids ?_ hahead
      rw [hloads entry hentry, projectIds_eq]
      exact List.mem_flatMap.2 ⟨entry, hentry, List.mem_cons_self ..⟩
    · exact hcurrent hold

theorem newSection_key (h : e.KeysPassed) {name : String}
    (hroom : e.RoomFor now (.addSection name)) :
    (e.newSection name).id ∉ e.state.sections.keys := by
  intro hkey
  have hnew : (e.newSection name).id ∈ e.newIds now (.addSection name) := List.mem_singleton.2 rfl
  exact h e.state (List.mem_cons_self ..) _ hkey ((step_handsOut hroom).ahead_of_mem hroom hnew)

theorem amends_soundSections {before after : EditorState} (h : Amends before c after)
    (hsound : before.SoundSections) : after.SoundSections := by
  obtain ⟨hkeyed, hopened, hhome⟩ := hsound
  cases c with
  | selectElement id =>
    simp only [Amends] at h
    subst h
    exact ⟨hkeyed, hopened, hhome⟩
  | setZoom zoom =>
    rw [h.2]
    exact ⟨hkeyed, hopened, hhome⟩
  | setCanvasSize width height =>
    rw [h.2]
    exact ⟨hkeyed, hopened, hhome⟩
  | switchSection id =>
    rw [h.2]
    exact ⟨hkeyed, h.1, hhome⟩
  | _ => exact h.elim

theorem records_soundSections {s : EditorState} {ids : IdSource} {guard : AddGuard}
    (h : Records e now c s ids guard) (hsound : e.state.SoundSections) (hpassed : e.KeysPassed)
    (hroom : e.RoomFor now c) (hloads : c.LoadsKeyedById) : s.SoundSections := by
  cases h with
  | add element haccepted => exact hsound.withElements _ _
  | edit _ after selected hedit => exact hsound.withElements _ _
  | template elements => exact hsound.withElements _ _
  | project sections active key hkey => exact .loaded hloads hkey
  | addSection name => exact hsound.withSection (newSection_key hpassed hroom) rfl
  | removeSection id removed hget hhome => exact hsound.withoutSection hget hhome

theorem step_soundSections (hsound : e.SoundSections) (hpassed : e.KeysPassed)
    (hroom : e.RoomFor now c) (hloads : c.LoadsKeyedById) : (e.step now c).2.SoundSections := by
  intro s hs
  have hcurrent := hsound e.state (List.mem_cons_self ..)
  rcases step_states e now c hs with hold | hamends | ⟨-, guard, hrecords⟩
  · exact hsound s hold
  · exact amends_soundSections hamends hcurrent
  · exact records_soundSections hrecords hcurrent hpassed hroom hloads

theorem after_soundSections {script : List (Int × Command)} (hsound : e.SoundSections)
    (hpassed : e.KeysPassed) (hroom : Along RoomFor e script)
    (hloads : ∀ entry ∈ script, entry.2.LoadsKeyedById) :
    (e.after script).SoundSections ∧ (e.after script).KeysPassed := by
  refine Along.after (Q := fun x => x.SoundSections ∧ x.KeysPassed) ?_
    (hroom.and_forall hloads) ⟨hsound, hpassed⟩
  rintro x now c ⟨hroom, hloads⟩ ⟨hsound, hpassed⟩
  exact ⟨step_soundSections hsound hpassed hroom hloads, step_keysPassed hpassed hroom hloads⟩

theorem addSection_homes (h : e.KeysPassed) {name : String}
    (hroom : e.RoomFor now (.addSection name)) :
    (e.step now (.addSection name)).2.state.sections.homes = e.state.sections.homes :=
  EditorState.withSection_homes (newSection_key h hroom) rfl

theorem removeSection_homes (id : String) :
    (e.step now (.removeSection id)).2.state.sections.homes = e.state.sections.homes := by
  obtain ⟨r, e', hstep, hdid⟩ := exists_did e now (.removeSection id)
  rw [hstep]
  cases hdid with
  | nothing => rfl
  | amended _ _ hnext => exact hnext.elim
  | recorded _ _ _ _ _ hnext =>
    cases hnext with
    | edit _ _ _ hedit => exact hedit.elim
    | removeSection _ removed hget hhome => exact EditorState.withoutSection_homes hget hhome

theorem switchSection_homes (id : String) :
    (e.step now (.switchSection id)).2.state.sections.homes = e.state.sections.homes := by
  simp only [step]
  split <;> rfl

/-- In every session whose loaded projects have their sections under their own ids, all states,
those of the history included, have every section under its id, the open section among them and
exactly one home section, which is the one that counts as home. Adding, removing and switching
sections never touch it. -/
theorem sections_stay_sound (config : EditorConfig) (key : String) (script : List (Int × Command))
    (hroom : Along RoomFor (Editor.new config key) script)
    (hloads : ∀ entry ∈ script, entry.2.LoadsKeyedById) :
    let e := (Editor.new config key).after script
    (∀ s ∈ e.states, s.SoundSections) ∧
    (∀ now name, e.RoomFor now (.addSection name) →
      (e.step now (.addSection name)).2.state.sections.homes = e.state.sections.homes) ∧
    (∀ now id,
      (e.step now (.removeSection id)).2.state.sections.homes = e.state.sections.homes) ∧
    ∀ now id,
      (e.step now (.switchSection id)).2.state.sections.homes = e.state.sections.homes := by
  intro e
  have hafter : e.SoundSections ∧ e.KeysPassed := after_soundSections (new_soundSections config key)
    (new_keysPassed config key) hroom hloads
  refine ⟨hafter.1, fun now name hnext => addSection_homes hafter.2 hnext, ?_, ?_⟩
  · intro now id
    exact removeSection_homes id
  · intro now id
    exact switchSection_homes id

/-- A project with two sections marked home, one of them under an id of the session's own form. The
section that is added opens, is removed while it is open, and comes back. -/
def openSectionRemoved : List (Int × Command) :=
  [(0, .loadProject (SortedMap.ofList [("f6e9fbe0-1", .home "f6e9fbe0-1" "Start"),
      ("about", .home "about" "About")]) (some "f6e9fbe0-1")),
    (1, .addSection "Contact"), (2, .removeSection "f6e9fbe0-2"), (3, .undo),
    (4, .switchSection "about")]

theorem sections_stay_sound_open_removed :
    Along RoomFor (Editor.new {} "oracle") openSectionRemoved ∧
      (∀ entry ∈ openSectionRemoved, entry.2.LoadsKeyedById) ∧
      (∀ s ∈ ((Editor.new {} "oracle").after openSectionRemoved).states, s.SoundSections) ∧
      ∀ now id,
        (((Editor.new {} "oracle").after openSectionRemoved).step now
          (.removeSection id)).2.state.sections.homes =
        ((Editor.new {} "oracle").after openSectionRemoved).state.sections.homes := by
  have hroom : Along RoomFor (Editor.new {} "oracle") openSectionRemoved := by decide +kernel
  have hloads : ∀ entry ∈ openSectionRemoved, entry.2.LoadsKeyedById := by decide +kernel
  have hsound := sections_stay_sound {} "oracle" openSectionRemoved hroom hloads
  exact ⟨hroom, hloads, hsound.1, hsound.2.2.1⟩

end Editor

end PageBuilder
