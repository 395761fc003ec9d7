import PageBuilder.Proofs.Editor.Sections
import PageBuilder.Workspace.Script

/-!
The open section. An element that is added goes into the section under the open key, and is lost
when there is no such section. The open key stays a key of the map exactly as long as a section that
opens by its id alone stands under that id.
-/

namespace PageBuilder

/-- The open section is one of the sections. -/
def EditorState.Opened (s : EditorState) : Prop := s.sections.contains s.activeSection = true

instance (s : EditorState) : Decidable s.Opened := inferInstanceAs (Decidable (_ = true))

/-- There is a home section, and its id is a key. -/
def Sections.HomeOpens (m : Sections) : Prop :=
  ∃ home, m.home? = some home ∧ m.contains home.id = true

/-- The section that the command opens by its id has a key of that name: the home section of a
project that is loaded without a key of its own, and the home section that opens in place of a
removed one. -/
def Command.OpensKey (before : EditorState) : Command → Prop
  | .loadProject sections active =>
    (∃ key, active = some key ∧ sections.contains key = true) ∨ sections.HomeOpens
  | .removeSection id =>
    id = before.activeSection → Sections.HomeOpens (before.sections.erase id)
  | _ => True

/-- The commands that payloads carry, each at its time. -/
def readCommands (payloads : List (Int × String)) : List (Int × Command) :=
  payloads.filterMap fun p => (Command.ofPayload? p.2).map fun c => (p.1, c)

namespace EditorState

theorem withElements_opened {s : EditorState} (h : s.Opened) (forest : Forest) :
    (s.withElements forest).Opened := by
  unfold Opened at h ⊢
  rw [SortedMap.contains_iff] at h ⊢
  rwa [withElements_activeSection, withElements_keys]

theorem withElements_elements {s : EditorState} (h : s.Opened) (forest : Forest) :
    (s.withElements forest).elements = forest := by
  obtain ⟨a, ha⟩ := Option.isSome_iff_exists.1 h
  have hactive : s.active? = some a := ha
  have hnext : s.withElements forest =
      { s with sections := s.sections.insert s.activeSection { a with elements := forest } } := by
    simp only [withElements, hactive]
  rw [hnext]
  simp only [elements, active?, SortedMap.get?_insert_self, Option.map_some, Option.getD_some]

theorem active?_of_not_opened {s : EditorState} (h : ¬ s.Opened) : s.active? = none := by
  unfold Opened SortedMap.contains at h
  rwa [Bool.not_eq_true, Option.isSome_eq_false_iff, Option.isNone_iff_eq_none] at h

end EditorState

theorem Sections.withSingleHome_homeId (m : Sections) :
    m.withSingleHome.home?.map Section.id = m.home?.map Section.id := by
  by_cases hempty : m.entries = []
  · obtain rfl : m = SortedMap.empty := SortedMap.ext hempty
    rfl
  · obtain ⟨e, he⟩ := exists_homeEntry? hempty
    have hafter := homeEntry?_of_homes (homes_withSingleHome he)
    rw [home?_eq, home?_eq, he, hafter]
    rfl

/-- Opening the home section, or nothing where there is none, opens a section. -/
theorem Sections.homeOpens_iff (m : Sections) :
    m.HomeOpens ↔ m.contains ((m.home?.map Section.id).getD "") = true := by
  cases hhome : m.home? with
  | some home =>
    rw [Option.map_some, Option.getD_some]
    constructor
    · rintro ⟨other, hother, hkey⟩
      rw [hhome] at hother
      rwa [Option.some.inj hother]
    · exact fun hkey => ⟨home, hhome, hkey⟩
  | none =>
    have hempty : m.entries = [] := by
      by_contra hne
      obtain ⟨e, he⟩ := exists_homeEntry? hne
      rw [home?_eq, he] at hhome
      cases hhome
    constructor
    · rintro ⟨home, hfound, -⟩
      rw [hhome] at hfound
      cases hfound
    · intro hkey
      rw [SortedMap.contains_iff, SortedMap.keys, hempty] at hkey
      cases hkey

namespace Editor

open EditorState

variable {e : Editor} {now : Int} {c : Command}

/-- An applied command opens only keys that are there. -/
def OpensKey (e : Editor) (now : Int) (c : Command) : Prop :=
  (e.step now c).1 = .ok .applied → c.OpensKey e.state

/-- In every state of the session the open section is one of the sections. -/
def AllOpened (e : Editor) : Prop := ∀ s ∈ e.states, s.Opened

/-- A loaded project opens one of its sections exactly if the asked key is there, or the id of its
home section is a key. -/
theorem opened?_contains {sections : Sections} {active : Option String} {key : String}
    (h : opened? sections active = some key) :
    sections.withSingleHome.contains key = true ↔
      (∃ k, active = some k ∧ sections.contains k = true) ∨ sections.HomeOpens := by
  have hcontains (k : String) :
      sections.withSingleHome.contains k = true ↔ sections.contains k = true := by
    rw [SortedMap.contains_iff, SortedMap.contains_iff, Sections.keys_withSingleHome]
  unfold opened? at h
  rw [Sections.withSingleHome_homeId] at h
  rw [hcontains]
  rcases Option.or_eq_some_iff.1 h with hasked | ⟨hasked, hhome⟩
  · obtain ⟨hactive, hkey⟩ := Option.filter_eq_some_iff.1 hasked
    rw [hcontains] at hkey
    exact ⟨fun _ => Or.inl ⟨key, hactive, hkey⟩, fun _ => hkey⟩
  · obtain ⟨home, hfound, rfl⟩ := Option.map_eq_some_iff.1 hhome
    constructor
    · intro hkey
      exact Or.inr ⟨home, hfound, hkey⟩
    · rintro (⟨k, rfl, hk⟩ | ⟨other, hother, hkey⟩)
      · -- the asked key would have been taken
        rw [Option.filter_some, if_pos ((hcontains k).2 hk)] at hasked
        cases hasked
      · rw [hfound] at hother
        obtain rfl := Option.some.inj hother
        exact hkey

theorem withoutSection_opened {s : EditorState} (h : s.Opened) (id : String) :
    (s.withoutSection id).Opened ↔
      (id = s.activeSection → Sections.HomeOpens (s.sections.erase id)) := by
  unfold Opened
  rw [withoutSection_sections]
  by_cases hopen : s.activeSection = id
  · have hactive : (s.withoutSection id).activeSection =
        ((Sections.home? (s.sections.erase id)).map Section.id).getD "" := by
      simp only [withoutSection, hopen, if_true, homeId?]
    rw [hactive, ← Sections.homeOpens_iff]
    exact ⟨fun hrest _ => hrest, fun hrest => hrest hopen.symm⟩
  · have hactive : (s.withoutSection id).activeSection = s.activeSection := by
      simp only [withoutSection, hopen, if_false]
    rw [hactive, SortedMap.contains_iff, SortedMap.mem_keys_erase]
    have hkey := SortedMap.contains_iff.1 h
    exact ⟨fun _ hid => absurd hid.symm hopen, fun _ => ⟨hopen, hkey⟩⟩

theorem amends_opened {before after : EditorState} (h : Amends before c after)
    (hopened : before.Opened) : after.Opened := by
  cases c with
  | selectElement id =>
    simp only [Amends] at h
    rwa [h]
  | setZoom zoom => rwa [h.2]
  | setCanvasSize width height => rwa [h.2]
  | switchSection id =>
    rw [h.2]
    exact h.1
  | _ => exact h.elim

theorem records_opened {s : EditorState} {ids : IdSource} {guard : AddGuard}
    (h : Records e now c s ids guard) (hopened : e.state.Opened) :
    s.Opened ↔ c.OpensKey e.state := by
  -- only loading a project and removing a section open a section by its id
  cases h with
  | add element haccepted =>
    exact iff_of_true (withElements_opened hopened _) trivial
  | edit _ after selected hedit =>
    have hkey : c.OpensKey e.state := by
      cases c <;> first | exact trivial | exact hedit.elim
    exact iff_of_true (withElements_opened hopened after) hkey
  | template elements => exact iff_of_true (withElements_opened hopened _) trivial
  | project sections active key hkey => exact opened?_contains hkey
  | addSection name =>
    refine iff_of_true ?_ trivial
    exact SortedMap.contains_iff.2 (SortedMap.mem_keys_insert_self ..)
  | removeSection id removed hget hhome => exact withoutSection_opened hopened id

theorem step_allOpened (h : e.AllOpened) (hkey : e.OpensKey now c) :
    (e.step now c).2.AllOpened := by
  intro s hs
  have hcurrent := h e.state (List.mem_cons_self ..)
  rcases step_states e now c hs with hold | hamends | ⟨happlied, guard, hrecords⟩
  · exact h s hold
  · exact amends_opened hamends hcurrent
  · exact (records_opened hrecords hcurrent).2 (hkey happlied)

theorem opensKey_of_opened (h : e.state.Opened) (hnext : (e.step now c).2.state.Opened) :
    e.OpensKey now c := by
  intro happlied
  obtain ⟨r, e', hstep, hdid⟩ := exists_did e now c
  rw [hstep] at happlied hnext
  cases hdid with
  | nothing _ _ hr => exact absurd happlied hr
  | amended _ next hamends =>
    cases c <;> first | exact trivial | exact hamends.elim
  | recorded _ label next ids guard hrecords => exact (records_opened hrecords h).1 hnext
  | undone => trivial
  | redone => trivial

/-- Along a run the open section stays one of the sections exactly when every command opens keys
that are there. -/
theorem opened_along_iff (e : Editor) (script : List (Int × Command)) (h : e.AllOpened) :
    (∀ reached, reached <+: script → (e.after reached).state.Opened) ↔ Along OpensKey e script := by
  -- the states on the way are those behind the prefixes of the run
  induction script generalizing e with
  | nil =>
    refine ⟨fun _ => trivial, fun _ reached hreached => ?_⟩
    rw [List.prefix_nil.1 hreached]
    exact h e.state (List.mem_cons_self ..)
  | cons first rest ih =>
    obtain ⟨now, c⟩ := first
    constructor
    · intro hopened
      have hnow : (e.step now c).2.state.Opened := hopened [(now, c)] ⟨rest, rfl⟩
      have hkey := opensKey_of_opened (h e.state (List.mem_cons_self ..)) hnow
      refine ⟨hkey, (ih _ (step_allOpened h hkey)).1 fun reached hreached => ?_⟩
      exact hopened ((now, c) :: reached) (List.cons_prefix_cons.2 ⟨rfl, hreached⟩)
    · rintro ⟨hkey, hlater⟩ reached hreached
      rcases List.prefix_cons_iff.1 hreached with rfl | ⟨tail, rfl, htail⟩
      · exact h e.state (List.mem_cons_self ..)
      · exact (ih _ (step_allOpened h hkey)).2 hlater tail htail

/-- A payload without a command is refused, so a run of payloads is the run of their commands. -/
theorem runPayloads_after (e : Editor) (payloads : List (Int × String)) :
    (e.runPayloads payloads).2 = e.after (readCommands payloads) := by
  induction payloads generalizing e with
  | nil => rfl
  | cons first rest ih =>
    obtain ⟨now, payload⟩ := first
    have hrest : (e.runPayloads ((now, payload) :: rest)).2 =
        ((e.stepPayload now payload).2.runPayloads rest).2 := rfl
    rw [hrest, ih]
    unfold stepPayload readCommands
    cases hcommand : Command.ofPayload? payload with
    | none => simp [hcommand]
    | some c => simp [hcommand, after, run, runMachine]

theorem new_allOpened (config : EditorConfig) (key : String) :
    (Editor.new config key).AllOpened := by
  intro s hs
  rw [new_states, List.mem_singleton] at hs
  subst hs
  rfl

/-- An applied add selects the copy that it makes. The copy is the last element of the open section
if there is one, and is nowhere if there is none. -/
theorem addElement_appends (element : Element)
    (happlied : (e.step now (.addElement element)).1 = .ok .applied) :
    let copy := (element.withFreshIds e.ids).1
    let next := (e.step now (.addElement element)).2.state
    next.selected = some copy.id ∧
      (e.state.Opened →
        next.elements = e.state.elements ++ [copy] ∧
        Forest.find? next.elements copy.id =
          (Forest.find? e.state.elements copy.id).or (some copy)) ∧
      (¬ e.state.Opened → next.sections = e.state.sections ∧ next.selectedElement? = none) := by
  intro copy next
  have hnext : next =
      { e.state.withElements (e.state.elements ++ [copy]) with selected := some copy.id } := by
    obtain ⟨r, e', hstep, hdid⟩ := exists_did e now (.addElement element)
    have hstate : next = e'.state := congrArg (fun x => x.2.state) hstep
    rw [hstep] at happlied
    rw [hstate]
    cases hdid with
    | nothing _ _ hr => exact absurd happlied hr
    | amended _ _ hamends => exact hamends.elim
    | recorded _ _ _ _ _ hrecords =>
      cases hrecords with
      | add => rfl
      | edit _ _ _ hedit => exact hedit.elim
  have hselected : next.selected = some copy.id := by rw [hnext]
  have helements :
      next.elements = (e.state.withElements (e.state.elements ++ [copy])).elements := by
    rw [hnext]
    rfl
  refine ⟨hselected, fun hopened => ?_, fun hclosed => ?_⟩
  · rw [helements, withElements_elements hopened]
    exact ⟨rfl, Forest.find?_concat _ _⟩
  · have hactive := active?_of_not_opened hclosed
    obtain ⟨hsame, hnone⟩ := withElements_inactive hactive (e.state.elements ++ [copy])
    refine ⟨by rw [hnext, hsame], ?_⟩
    unfold selectedElement?
    rw [hselected, helements, hsame, hnone]
    rfl

/-- In a run of payloads on a new session the open section is always one of the sections exactly as
long as every command that opens a section by its id finds a key of that name. An applied add is
appended to the open section, and found there unless an older element has its id; without an open
section it changes nothing but the selection, and nothing is selected. -/
theorem adds_kept_iff (config : EditorConfig) (key : String) (payloads : List (Int × String)) :
    ((∀ reached, reached <+: payloads →
        ((Editor.new config key).runPayloads reached).2.state.Opened) ↔
      Along OpensKey (Editor.new config key) (readCommands payloads)) ∧
    ∀ now element,
      let e := ((Editor.new config key).runPayloads payloads).2
      let copy := (element.withFreshIds e.ids).1
      let next := (e.step now (.addElement element)).2.state
      (e.step now (.addElement element)).1 = .ok .applied →
      next.selected = some copy.id ∧
        (e.state.Opened →
          next.elements = e.state.elements ++ [copy] ∧
          Forest.find? next.elements copy.id =
            (Forest.find? e.state.elements copy.id).or (some copy)) ∧
        (¬ e.state.Opened → next.sections = e.state.sections ∧ next.selectedElement? = none) := by
  refine ⟨?_, fun now element => addElement_appends element⟩
  rw [← opened_along_iff _ _ (new_allOpened config key)]
  constructor
  · intro hopened reached hreached
    obtain ⟨taken, htaken, rfl⟩ := List.prefix_filterMap_iff.1 hreached
    rw [← readCommands, ← runPayloads_after]
    exact hopened taken htaken
  · intro hopened reached hreached
    rw [runPayloads_after]
    exact hopened _ (hreached.filterMap _)

/-- The home section of a project stands under another key than its id, and no key is asked for. -/
def homeUnderOtherKey : List (Int × String) :=
  let start : Json := .obj [("id", .str "start"), ("name", .str "Start"), ("slug", .str "start"),
    ("isHome", .bool true)]
  let load : Json := .obj [("type", .str "loadProject"), ("sections", .obj [("main", start)])]
  [(0, load.compact)]

/-- The project is loaded without an open section, and an element that is added then is lost. -/
theorem homeUnderOtherKey_loses_add :
    let e := ((Editor.new {} "oracle").runPayloads homeUnderOtherKey).2
    let next := (e.step 0 (.addElement (.new "a" .text))).2.state
    e.state.activeSection = "start" ∧ e.state.sections.keys = ["main"] ∧
      (e.step 0 (.addElement (.new "a" .text))).1.toOption = some .applied ∧
      next.selected = some "f6e9fbe0-1" ∧ Forest.ids next.elements = [] := by
  decide +kernel

end Editor

end PageBuilder
