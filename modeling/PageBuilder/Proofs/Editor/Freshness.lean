import PageBuilder.Proofs.Editor.Identity

/-!
Fresh ids. The ids of a session come from one source, and no id is handed out twice. A new id is
free in the whole session, states in the history included, as long as the source has been moved past
everything that came in from outside; where it has not, an id that is taken is handed out.
-/

namespace PageBuilder.Editor

variable {e : Editor} {now : Int} {c : Command}

/-- The numbers last for the ids that the command takes. -/
def RoomFor (e : Editor) (now : Int) (c : Command) : Prop :=
  e.ids.issued + (e.newIds now c).length < wordLimit

/-- Every command of a run meets a condition in the editor that it is run in. -/
def Along (P : Editor → Int → Command → Prop) : Editor → List (Int × Command) → Prop
  | _, [] => True
  | e, (now, c) :: rest => P e now c ∧ Along P (e.step now c).2 rest

instance : Decidable (RoomFor e now c) := Nat.decLt _ _

instance Along.decidable {P : Editor → Int → Command → Prop} [∀ e now c, Decidable (P e now c)] :
    ∀ e script, Decidable (Along P e script)
  | _, [] => .isTrue trivial
  | e, (now, c) :: rest =>
    have : Decidable (Along P (e.step now c).2 rest) := Along.decidable _ rest
    inferInstanceAs (Decidable (P e now c ∧ Along P (e.step now c).2 rest))

theorem Along.and_forall {P : Editor → Int → Command → Prop} {Q : Command → Prop} {e : Editor}
    {script : List (Int × Command)} (h : Along P e script) (hall : ∀ entry ∈ script, Q entry.2) :
    Along (fun e now c => P e now c ∧ Q c) e script := by
  induction script generalizing e with
  | nil => trivial
  | cons first rest ih =>
    obtain ⟨hfirst, hrest⟩ := h
    refine ⟨⟨hfirst, hall first (List.mem_cons_self ..)⟩, ih hrest fun entry hentry => ?_⟩
    exact hall entry (List.mem_cons_of_mem _ hentry)

/-- What every step under a condition preserves holds after a run whose steps all meet it. -/
theorem Along.after {P : Editor → Int → Command → Prop} {Q : Editor → Prop}
    (hstep : ∀ e now c, P e now c → Q e → Q (e.step now c).2) {e : Editor}
    {script : List (Int × Command)} (h : Along P e script) (hstart : Q e) : Q (e.after script) := by
  induction script generalizing e with
  | nil => exact hstart
  | cons first rest ih => exact ih h.2 (hstep e _ _ h.1 hstart)

/-- All ids that a run hands out, in order. -/
def handedOut : Editor → List (Int × Command) → List String
  | _, [] => []
  | e, (now, c) :: rest => e.newIds now c ++ handedOut (e.step now c).2 rest

/-- The ids in the current state and in the states of the history. -/
def takenIds (e : Editor) : List String := e.states.flatMap EditorState.takenIds

/-- No id of the session is one that the source would still hand out. -/
def NoneAhead (e : Editor) : Prop := ∀ id ∈ e.takenIds, ¬ e.ids.Ahead id

/-- Whatever command comes next, the ids that are handed out for it are free. -/
def NewIdsFree (e : Editor) : Prop :=
  ∀ now c, e.RoomFor now c → ∀ id ∈ e.newIds now c, id ∉ e.takenIds

/-- If the command is applied, none of the ids that it brings along is still ahead of the source. -/
def PassesForeign (e : Editor) (now : Int) (c : Command) : Prop :=
  (e.step now c).1 = .ok .applied → ∀ id ∈ c.foreignIds, ¬ (e.step now c).2.ids.Ahead id

theorem amends_ids {before after : EditorState} (h : Amends before c after) :
    e.newIds now c = [] ∧ c.foreignIds = [] := by
  cases c with
  | selectElement id => exact ⟨rfl, rfl⟩
  | setZoom zoom => exact ⟨rfl, rfl⟩
  | setCanvasSize width height => exact ⟨rfl, rfl⟩
  | switchSection id => exact ⟨rfl, rfl⟩
  | _ => exact h.elim

theorem amends_sections {before after : EditorState} (h : Amends before c after) :
    after.sections = before.sections := by
  cases c with
  | selectElement id =>
    simp only [Amends] at h
    rw [h]
  | setZoom zoom => rw [h.2]
  | setCanvasSize width height => rw [h.2]
  | switchSection id => rw [h.2]
  | _ => exact h.elim

theorem edits_newIds {before after : Forest} (h : Edits before c after) :
    e.newIds now c = [] := by
  cases c with
  | updateElement id patch => rfl
  | deleteElement id => rfl
  | moveElement id position => rfl
  | resizeElement id size => rfl
  | reorderElements order => rfl
  | clearCanvas => rfl
  | _ => exact h.elim

/-- A step that is not applied takes no ids. -/
theorem newIds_idle (h : (e.step now c).1 ≠ .ok .applied) : e.newIds now c = [] := by
  cases c with
  | addElement element =>
    by_cases haccepted : (e.offered now element).1 = true
    · exfalso
      apply h
      have hoffer : (e.guard.offer ⟨element.type, element.node.position, now⟩).1 = true := haccepted
      simp [step, addElement, accepted, commit, hoffer]
    · simp [newIds, haccepted]
  | loadTemplate elements => exact absurd rfl h
  | addSection name => exact absurd rfl h
  | _ => rfl

/-- A copy of a forest hands out the ids of the copy. -/
theorem copies_handsOut {s : IdSource} (forest : Forest)
    (hroom : s.issued + (Forest.ids (Forest.withFreshIds s forest).1).length < wordLimit) :
    s.HandsOut (Forest.ids (Forest.withFreshIds s forest).1) (Forest.withFreshIds s forest).2 := by
  have hlength : (Forest.ids (Forest.withFreshIds s forest).1).length =
      (Forest.nodes forest).length := by
    rw [Forest.ids_eq, List.length_map, Forest.withFreshIds_length]
  rw [hlength] at hroom
  obtain ⟨hids, hsource⟩ := Forest.withFreshIds_upcoming s forest hroom
  unfold IdSource.HandsOut
  rw [hlength, hsource, Forest.ids_eq]
  exact ⟨rfl, hids, Nat.le_refl _⟩

theorem records_handsOut {s : EditorState} {ids : IdSource} {guard : AddGuard}
    (h : Records e now c s ids guard) (hroom : e.RoomFor now c) :
    e.ids.HandsOut (e.newIds now c) ids := by
  unfold RoomFor at hroom
  cases h with
  | add element haccepted =>
    simp only [newIds, haccepted, if_true] at hroom ⊢
    exact copies_handsOut [element] hroom
  | edit _ after selected hedit =>
    rw [edits_newIds hedit]
    exact .nothing _
  | template elements => exact copies_handsOut elements hroom
  | project sections active =>
    exact ⟨IdSource.advancePast_seed _ _, rfl, IdSource.issued_le_advancePast _ _⟩
  | addSection name =>
    simp only [newIds, List.length_singleton] at hroom ⊢
    rw [IdSource.next_eq hroom]
    exact ⟨rfl, rfl, Nat.le_refl _⟩
  | removeSection => exact .nothing _

/-- A step hands out its new ids and moves the source past their numbers. -/
theorem step_handsOut (hroom : e.RoomFor now c) :
    e.ids.HandsOut (e.newIds now c) (e.step now c).2.ids := by
  obtain ⟨r, e', hstep, hdid⟩ := exists_did e now c
  have hidle : (e.step now c).1 ≠ .ok .applied → e.newIds now c = [] := newIds_idle
  rw [hstep] at hidle ⊢
  cases hdid with
  | nothing _ _ hr =>
    rw [hidle hr]
    exact .nothing _
  | amended _ next hnext =>
    rw [(amends_ids hnext).1]
    exact .nothing _
  | recorded _ label next ids guard hnext => exact records_handsOut hnext hroom
  | undone => exact .nothing _
  | redone => exact .nothing _

/-- A run hands out ids that were ahead at its start, and none of them twice. -/
theorem handedOut_spec (e : Editor) (script : List (Int × Command))
    (hroom : Along RoomFor e script) :
    (e.handedOut script).Nodup ∧ ∀ id ∈ e.handedOut script, e.ids.Ahead id := by
  induction script generalizing e with
  | nil => exact ⟨List.nodup_nil, fun _ h => by cases h⟩
  | cons first rest ih =>
    obtain ⟨now, c⟩ := first
    obtain ⟨hfirst, hrest⟩ := hroom
    obtain ⟨hnodup, hahead⟩ := ih _ hrest
    have hstep := step_handsOut hfirst
    simp only [handedOut]
    refine ⟨?_, fun id hid => ?_⟩
    · refine List.nodup_append.2 ⟨hstep.nodup, hnodup, fun id hid later hlater hsame => ?_⟩
      -- what comes later is ahead of the source after this step, and this id no longer is
      subst hsame
      exact hstep.not_ahead hid (hahead id hlater)
    · rcases List.mem_append.1 hid with hid | hid
      · exact hstep.ahead_of_mem hfirst hid
      · exact hstep.ahead (hahead id hid)

theorem mem_takenIds {id : String} : id ∈ e.takenIds ↔ ∃ s ∈ e.states, id ∈ s.takenIds :=
  List.mem_flatMap

/-- A new session has the id of its home section only, and that is not of the source's form. -/
theorem new_noneAhead (config : EditorConfig) (key : String) :
    (Editor.new config key).NoneAhead := by
  intro id hid
  have htaken : (Editor.new config key).takenIds = [homeSectionId, homeSectionId] := rfl
  have hhome : id = homeSectionId := by
    rw [htaken] at hid
    simpa using hid
  have hdash : '-' ∉ homeSectionId.toList := by decide
  rw [hhome]
  exact IdSource.not_ahead_of_no_dash hdash

/-- A command that brings along only ids that the source has passed keeps all ids passed. -/
theorem step_noneAhead (h : e.NoneAhead) (hroom : e.RoomFor now c)
    (hforeign : e.PassesForeign now c) : (e.step now c).2.NoneAhead := by
  intro id hid hahead
  have hstep := step_handsOut hroom
  have hbefore : id ∉ e.takenIds := fun hid => h id hid (hstep.ahead hahead)
  obtain ⟨s, hs, hid⟩ := mem_takenIds.1 hid
  rcases step_states e now c hs with hold | hamends | ⟨happlied, guard, hrecords⟩
  · exact hbefore (mem_takenIds.2 ⟨s, hold, hid⟩)
  · unfold EditorState.takenIds at hid
    rw [amends_sections hamends] at hid
    exact hbefore (mem_takenIds.2 ⟨e.state, List.mem_cons_self .., hid⟩)
  · rcases records_taken hrecords hid with hnew | hbrought | hold
    · exact hstep.not_ahead hnew hahead
    · exact hforeign happlied id hbrought hahead
    · exact hbefore (mem_takenIds.2 ⟨e.state, List.mem_cons_self .., hold⟩)

/-- Whatever an applied command brings along is in the session afterwards. -/
theorem step_foreign {id : String} (happlied : (e.step now c).1 = .ok .applied)
    (hid : id ∈ c.foreignIds) : id ∈ (e.step now c).2.takenIds := by
  apply mem_takenIds.2
  refine ⟨(e.step now c).2.state, List.mem_cons_self .., ?_⟩
  obtain ⟨r, e', hstep, hdid⟩ := exists_did e now c
  rw [hstep] at happlied ⊢
  cases hdid with
  | nothing _ _ hr => exact absurd happlied hr
  | amended _ next hnext =>
    have hids : e.newIds now c = [] ∧ c.foreignIds = [] := amends_ids hnext
    rw [hids.2] at hid
    cases hid
  | recorded _ label next ids guard hnext => exact records_foreign hnext hid
  | undone => cases hid
  | redone => cases hid

theorem leaves_length (n : Nat) (type : ElementType) :
    (Forest.nodes (List.replicate n (.new "" type))).length = n := by
  induction n with
  | zero => rfl
  | succ n ih =>
    rw [List.replicate_succ, Forest.nodes_cons, List.length_append, ih, Element.nodes_eq]
    simp only [Element.new, Element.children, Forest.nodes_nil, List.length_singleton]
    omega

/-- New ids are free exactly when no taken id is ahead of the source. -/
theorem newIdsFree_iff : e.NewIdsFree ↔ e.NoneAhead := by
  constructor
  · rintro hfree id hid ⟨n, hlow, hhigh, rfl⟩
    -- a template of the right size gets to the number of the taken id
    let leaves : Forest := List.replicate (n - e.ids.issued) (.new "" .text)
    have hleaves : (Forest.nodes leaves).length = n - e.ids.issued := leaves_length _ _
    have hnew : e.newIds 0 (.loadTemplate leaves) = e.ids.upcoming (n - e.ids.issued) := by
      have hcopies := Forest.withFreshIds_upcoming e.ids leaves (by omega)
      rw [hleaves] at hcopies
      simp only [newIds, Forest.ids_eq, hcopies.1]
    have hroom : e.RoomFor 0 (.loadTemplate leaves) := by
      unfold RoomFor
      rw [hnew, IdSource.length_upcoming]
      omega
    apply hfree 0 (.loadTemplate leaves) hroom _ _ hid
    rw [hnew]
    exact IdSource.mem_upcoming.2 ⟨n, hlow, by omega, rfl⟩
  · intro h now c hroom id hid htaken
    exact h id htaken ((step_handsOut hroom).ahead_of_mem hroom hid)

/-- As long as new ids are free, adding a section adds one entry and leaves all others. -/
theorem addSection_adds (hfree : e.NewIdsFree) (name : String)
    (hroom : e.RoomFor now (.addSection name)) :
    (e.step now (.addSection name)).1 = .ok .applied ∧
      ∃ before behind, e.state.sections.entries = before ++ behind ∧
        (e.step now (.addSection name)).2.state.sections.entries =
          before ++ (e.ids.next.1, e.newSection name) :: behind := by
  have hkey : e.ids.next.1 ∉ e.state.sections.keys := by
    intro hkey
    apply hfree now (.addSection name) hroom e.ids.next.1 (List.mem_singleton.2 rfl)
    exact mem_takenIds.2 ⟨e.state, List.mem_cons_self .., List.mem_append_left _ hkey⟩
  obtain ⟨before, behind, hentries, hinsert⟩ :=
    SortedMap.entries_insert_of_none (SortedMap.get?_eq_none hkey)
  exact ⟨rfl, before, behind, hentries, hinsert (e.newSection name)⟩

/-- Along a run from a session without ids ahead, new ids stay free exactly when every command
passes the ids that it brings along. -/
theorem newIdsFree_along_iff (e : Editor) (script : List (Int × Command))
    (h : e.NoneAhead) (hroom : Along RoomFor e script) :
    (∀ reached, reached <+: script → (e.after reached).NewIdsFree) ↔
      Along PassesForeign e script := by
  induction script generalizing e with
  | nil =>
    refine ⟨fun _ => trivial, fun _ reached hreached => ?_⟩
    rw [List.prefix_nil.1 hreached]
    exact newIdsFree_iff.2 h
  | cons first rest ih =>
    obtain ⟨now, c⟩ := first
    obtain ⟨hfirst, hrest⟩ := hroom
    constructor
    · intro hfree
      -- the editor after the first command is reached, too
      have hnext : (e.step now c).2.NoneAhead :=
        newIdsFree_iff.1 (hfree [(now, c)] ⟨rest, rfl⟩)
      refine ⟨fun happlied id hid => hnext id (step_foreign happlied hid), ?_⟩
      refine (ih _ hnext hrest).1 fun reached hreached => ?_
      exact hfree ((now, c) :: reached) (List.cons_prefix_cons.2 ⟨rfl, hreached⟩)
    · rintro ⟨hpasses, hlater⟩ reached hreached
      rcases List.prefix_cons_iff.1 hreached with rfl | ⟨tail, rfl, htail⟩
      · exact newIdsFree_iff.2 h
      · exact (ih _ (step_noneAhead h hfirst hpasses) hrest).2 hlater tail htail

/-- A session hands out no id twice. The ids it hands out are free in all its states exactly as long
as every applied command brings along only ids that the source is past afterwards, and then adding a
section never replaces one. -/
theorem new_ids_free_iff (config : EditorConfig) (key : String) (script : List (Int × Command))
    (hroom : Along RoomFor (Editor.new config key) script) :
    ((Editor.new config key).handedOut script).Nodup ∧
    ((∀ reached, reached <+: script → ((Editor.new config key).after reached).NewIdsFree) ↔
      Along PassesForeign (Editor.new config key) script) ∧
    (Along PassesForeign (Editor.new config key) script → ∀ now name,
      let e := (Editor.new config key).after script
      e.RoomFor now (.addSection name) →
      (e.step now (.addSection name)).1 = .ok .applied ∧
        ∃ before behind, e.state.sections.entries = before ++ behind ∧
          (e.step now (.addSection name)).2.state.sections.entries =
            before ++ (e.ids.next.1, e.newSection name) :: behind) := by
  have hiff := newIdsFree_along_iff _ script (new_noneAhead config key) hroom
  refine ⟨(handedOut_spec _ script hroom).1, hiff, fun hpasses now name => ?_⟩
  exact addSection_adds (hiff.2 hpasses script (List.prefix_refl _)) name

/-- A container is added and gets the first id; an update then puts the second id below it. -/
def secondIdTaken : List (Int × Command) :=
  [(0, .addElement (.new "a" .container)),
    (0, .updateElement "f6e9fbe0-1" { children := some [.new "f6e9fbe0-2" .text] })]

theorem new_ids_free_iff_second_taken :
    ((Editor.new { addDebounceMs := 0 } "oracle").handedOut secondIdTaken).Nodup ∧
    ((∀ reached, reached <+: secondIdTaken →
        ((Editor.new { addDebounceMs := 0 } "oracle").after reached).NewIdsFree) ↔
      Along PassesForeign (Editor.new { addDebounceMs := 0 } "oracle") secondIdTaken) := by
  have hspec := new_ids_free_iff { addDebounceMs := 0 } "oracle" secondIdTaken (by decide +kernel)
  exact ⟨hspec.1, hspec.2.1⟩

/-- The source is not moved past the children of an update: the next element that is added gets an
id that one of them has. -/
theorem update_children_not_passed :
    let e := (Editor.new { addDebounceMs := 0 } "oracle").after secondIdTaken
    e.RoomFor 0 (.addElement (.new "b" .text)) ∧
      e.newIds 0 (.addElement (.new "b" .text)) = ["f6e9fbe0-2"] ∧
      "f6e9fbe0-2" ∈ e.takenIds := by
  decide +kernel

end PageBuilder.Editor
