import PageBuilder.Proofs.Editor.Runs
import PageBuilder.Proofs.Forest.Gap
import PageBuilder.Proofs.Forest.Order
import PageBuilder.Proofs.SortedMap
import Mathlib.Data.List.Flatten

/-!
Where the ids of a document come from. A command brings ids along or has new ones handed out, and
every other id of the state it makes was in the state before.
-/

namespace PageBuilder

open Editor (projectIds)

/-- The id of a section and the ids of its elements. -/
def Section.allIds (s : Section) : List String := s.id :: Forest.ids s.elements

theorem projectIds_eq (m : Sections) : projectIds m = m.entries.flatMap fun e => e.2.allIds := by
  simp only [projectIds, SortedMap.values, List.flatMap_map]
  rfl

theorem keepFirstHome_allIds (seen : Bool) (entries : List (String × Section)) :
    ((keepFirstHome seen entries).flatMap fun e => e.2.allIds) =
      entries.flatMap fun e => e.2.allIds := by
  induction entries generalizing seen with
  | nil => rfl
  | cons e rest ih =>
    simp only [keepFirstHome, List.flatMap_cons, ih]
    rfl

theorem markFirst_allIds (entries : List (String × Section)) :
    ((markFirst entries).flatMap fun e => e.2.allIds) = entries.flatMap fun e => e.2.allIds := by
  cases entries <;> rfl

namespace Sections

/-- Marking one section home leaves all ids. -/
theorem projectIds_withSingleHome (m : Sections) : projectIds m.withSingleHome = projectIds m := by
  rw [projectIds_eq, projectIds_eq]
  unfold withSingleHome
  split
  · exact keepFirstHome_allIds false m.entries
  · exact markFirst_allIds m.entries

theorem keys_withSingleHome (m : Sections) : m.withSingleHome.keys = m.keys := by
  unfold withSingleHome
  split
  · exact keepFirstHome_keys false m.entries
  · exact markFirst_keys m.entries

end Sections

namespace EditorState

/-- Another forest in the active section exchanges the ids of the one for those of the other. -/
theorem withElements_splices {s : EditorState} {a : Section} (h : s.active? = some a)
    (forest : Forest) :
    Splices (Forest.ids s.elements) (Forest.ids forest) (projectIds s.sections)
      (projectIds (s.withElements forest).sections) := by
  obtain ⟨before, behind, hentries, -, hinsert⟩ := SortedMap.entries_insert_of_some h
  have helements : s.elements = a.elements := by simp [elements, h]
  refine ⟨(before.flatMap fun e => e.2.allIds) ++ [a.id], behind.flatMap fun e => e.2.allIds,
    ?_, ?_⟩
  · rw [projectIds_eq, hentries, helements]
    simp [Section.allIds]
  · simp only [withElements, h]
    rw [projectIds_eq, hinsert]
    simp [Section.allIds]

theorem withElements_inactive {s : EditorState} (h : s.active? = none) (forest : Forest) :
    s.withElements forest = s ∧ s.elements = [] := by
  simp [withElements, elements, h]

/-- No id occurs more often than the exchange of the active forest explains. -/
theorem withElements_count (s : EditorState) (forest : Forest) (x : String) :
    (projectIds (s.withElements forest).sections).count x + (Forest.ids s.elements).count x ≤
      (projectIds s.sections).count x + (Forest.ids forest).count x := by
  cases h : s.active? with
  | some a => exact Nat.le_of_eq ((withElements_splices h forest).count_eq x)
  | none =>
    obtain ⟨hsame, hempty⟩ := withElements_inactive h forest
    rw [hsame, hempty]
    simp [Forest.ids_eq, Forest.nodes_nil]

theorem withElements_keys (s : EditorState) (forest : Forest) :
    (s.withElements forest).sections.keys = s.sections.keys := by
  unfold withElements
  split
  · next a h =>
    obtain ⟨before, behind, hentries, -, hinsert⟩ := SortedMap.entries_insert_of_some h
    simp only [SortedMap.keys, hinsert, hentries, List.map_append, List.map_cons]
  · rfl

/-- One more section brings its own ids and no others. -/
theorem withSection_count (s : EditorState) (added : Section) (x : String) :
    (projectIds (s.withSection added).sections).count x ≤
      added.allIds.count x + (projectIds s.sections).count x := by
  simp only [withSection, projectIds_eq]
  cases h : s.sections.get? added.id with
  | some old =>
    obtain ⟨before, behind, hentries, -, hinsert⟩ := SortedMap.entries_insert_of_some h
    simp only [hinsert, hentries, List.flatMap_append, List.flatMap_cons, List.count_append]
    omega
  | none =>
    obtain ⟨before, behind, hentries, hinsert⟩ := SortedMap.entries_insert_of_none h
    simp only [hinsert, hentries, List.flatMap_append, List.flatMap_cons, List.count_append]
    omega

theorem withoutSection_sections (s : EditorState) (key : String) :
    (s.withoutSection key).sections = s.sections.erase key := by
  simp only [withoutSection]
  split <;> rfl

/-- A removed section takes its ids away and brings none. -/
theorem withoutSection_count (s : EditorState) (key x : String) :
    (projectIds (s.withoutSection key).sections).count x ≤ (projectIds s.sections).count x := by
  rw [withoutSection_sections, projectIds_eq, projectIds_eq]
  apply List.Sublist.count_le
  exact List.filter_sublist.flatMap _

end EditorState

/-- The ids that a command brings along instead of having them handed out: those of the children
that an update puts below an element, and the keys and ids of a loaded project. -/
def Command.foreignIds : Command → List String
  | .updateElement id patch => if id = reorderId then [] else Forest.ids (patch.children.getD [])
  | .loadProject sections _ => sections.keys ++ projectIds sections
  | _ => []

/-- The ids of a state: the keys of its sections, their ids and the ids of their elements. -/
def EditorState.takenIds (s : EditorState) : List String := s.sections.keys ++ projectIds s.sections

/-- An exchange of nodes brings no ids besides those that the new nodes have more. -/
theorem Exchanged.count_le {id x : String} {f : Element → List Node} {before after : List Node}
    {extra : Nat} (h : Exchanged id f before after)
    (hf : ∀ target : Element, ((f target).map Node.id).count x ≤
      (target.nodes.map Node.id).count x + extra) :
    (after.map Node.id).count x ≤ (before.map Node.id).count x + extra := by
  obtain ⟨target, -, hsplice⟩ := h
  have hbalance := (hsplice.map Node.id).count_eq x
  have htarget := hf target
  omega

namespace Editor

open EditorState

theorem patch_ids (patch : Patch) (target : Element) :
    (patch.apply target).nodes.map Node.id =
      target.id :: Forest.ids (patch.children.getD target.children) := by
  cases target with
  | mk node children => exact Element.nodes_ids _

theorem patch_count (patch : Patch) (target : Element) (x : String) :
    ((patch.apply target).nodes.map Node.id).count x ≤
      (target.nodes.map Node.id).count x + (Forest.ids (patch.children.getD [])).count x := by
  rw [patch_ids, Element.nodes_ids]
  cases patch.children with
  | none => exact Nat.le_add_right _ _
  | some children =>
    simp only [Option.getD_some, List.count_cons]
    omega

/-- A change that keeps an element's id and its children keeps all its ids. -/
theorem kept_ids {target changed : Element} (hid : changed.id = target.id)
    (hchildren : changed.children = target.children) :
    changed.nodes.map Node.id = target.nodes.map Node.id := by
  rw [Element.nodes_ids, Element.nodes_ids, hid, hchildren]

/-- An edit of a forest brings no ids but those that its command brings along. -/
theorem edits_count {before after : Forest} {c : Command} (h : Edits before c after) (x : String) :
    (Forest.ids after).count x ≤ (Forest.ids before).count x + c.foreignIds.count x := by
  rw [Forest.ids_eq, Forest.ids_eq]
  cases c with
  | updateElement id patch =>
    simp only [Edits, Forest.update?] at h
    simp only [Command.foreignIds]
    split at h
    · next hreorder =>
      obtain ⟨order, -, horder⟩ := Option.bind_eq_some_iff.1 h
      rw [if_pos hreorder, ((Forest.reorder?_nodes horder).map Node.id).count_eq]
      exact Nat.le_add_right _ _
    · next hpatch =>
      rw [if_neg hpatch]
      exact (Forest.replaceFirst?_nodes h).count_le fun target => patch_count patch target x
  | deleteElement id =>
    exact (Forest.delete?_nodes h).count_le fun _ => Nat.zero_le _
  | moveElement id position =>
    refine (Forest.replaceFirst?_nodes h).count_le fun target => Nat.le_of_eq ?_
    cases target with
    | mk node children => exact congrArg (List.count x) (kept_ids rfl rfl)
  | resizeElement id size =>
    refine (Forest.replaceFirst?_nodes h).count_le fun target => Nat.le_of_eq ?_
    cases target with
    | mk node children => exact congrArg (List.count x) (kept_ids rfl rfl)
  | reorderElements order =>
    rw [((Forest.reorder?_nodes h).map Node.id).count_eq]
    exact Nat.le_add_right _ _
  | clearCanvas =>
    simp only [Edits] at h
    subst h
    exact Nat.zero_le _
  | _ => exact h.elim

/-- The ids that the editor hands out for a command. -/
def newIds (e : Editor) (now : Int) : Command → List String
  | .addElement element =>
    if (e.offered now element).1 then Forest.ids [(element.withFreshIds e.ids).1] else []
  | .loadTemplate elements => Forest.ids (Forest.withFreshIds e.ids elements).1
  | .addSection _ => [e.ids.next.1]
  | _ => []

/-- A recorded state has only new ids, ids that the command brings along and ids of the state
before, none of them more often than these together. Only loading replaces all sections. -/
theorem records_count {e : Editor} {now : Int} {c : Command} {s : EditorState} {ids : IdSource}
    {guard : AddGuard} (h : Records e now c s ids guard) :
    (∃ sections active, c = .loadProject sections active ∧ s.sections = sections.withSingleHome) ∨
      ∀ x, (projectIds s.sections).count x ≤ (e.newIds now c).count x + c.foreignIds.count x +
        (projectIds e.state.sections).count x := by
  cases h with
  | add element haccepted =>
    right
    intro x
    -- the elements that are kept stand on both sides
    have hcount := withElements_count e.state
      (e.state.elements ++ [(element.withFreshIds e.ids).1]) x
    rw [Forest.ids_append, List.count_append] at hcount
    simp only [newIds, haccepted, if_true]
    omega
  | edit _ after selected hedit =>
    right
    intro x
    have hcount := withElements_count e.state after x
    have hedited := edits_count hedit x
    change (projectIds (e.state.withElements after).sections).count x ≤ _
    omega
  | template elements =>
    right
    intro x
    have hcount := withElements_count e.state (Forest.withFreshIds e.ids elements).1 x
    simp only [newIds]
    omega
  | project sections active key hkey => exact Or.inl ⟨sections, active, rfl, rfl⟩
  | addSection name =>
    right
    intro x
    exact Nat.le_trans (withSection_count e.state (e.newSection name) x) (Nat.le_refl _)
  | removeSection key =>
    right
    intro x
    exact Nat.le_trans (withoutSection_count e.state key x) (Nat.le_add_left _ _)

/-- The keys of a recorded state are new, keys of a loaded project or keys of the state before. -/
theorem records_keys_cases {e : Editor} {now : Int} {c : Command} {s : EditorState} {ids : IdSource}
    {guard : AddGuard} (h : Records e now c s ids guard) {key : String}
    (hkey : key ∈ s.sections.keys) :
    key ∈ e.newIds now c ∨
      (∃ sections active, c = .loadProject sections active ∧ key ∈ sections.keys) ∨
      key ∈ e.state.sections.keys := by
  cases h with
  | add element haccepted =>
    right; right
    exact withElements_keys e.state _ ▸ hkey
  | edit _ after selected hedit =>
    right; right
    exact withElements_keys e.state _ ▸ hkey
  | template elements =>
    right; right
    exact withElements_keys e.state _ ▸ hkey
  | project sections active =>
    right; left
    exact ⟨sections, active, rfl, sections.keys_withSingleHome ▸ hkey⟩
  | addSection name =>
    rcases SortedMap.mem_keys_insert hkey with rfl | hkey
    · exact Or.inl (List.mem_singleton.2 rfl)
    · exact Or.inr (Or.inr hkey)
  | removeSection removed =>
    right; right
    rw [withoutSection_sections] at hkey
    obtain ⟨entry, hentry, rfl⟩ := List.mem_map.1 hkey
    exact List.mem_map_of_mem (List.mem_of_mem_filter hentry)

/-- The keys of a recorded state are keys of the state before, brought along or new. -/
theorem records_keys {e : Editor} {now : Int} {c : Command} {s : EditorState} {ids : IdSource}
    {guard : AddGuard} (h : Records e now c s ids guard) {key : String}
    (hkey : key ∈ s.sections.keys) :
    key ∈ e.newIds now c ∨ key ∈ c.foreignIds ∨ key ∈ e.state.sections.keys := by
  rcases records_keys_cases h hkey with hnew | ⟨sections, active, rfl, hloaded⟩ | hold
  · exact Or.inl hnew
  · exact Or.inr (Or.inl (List.mem_append_left _ hloaded))
  · exact Or.inr (Or.inr hold)

/-- An id of a recorded state is new, brought along or an id of the state before. -/
theorem records_taken {e : Editor} {now : Int} {c : Command} {s : EditorState} {ids : IdSource}
    {guard : AddGuard} (h : Records e now c s ids guard) {x : String} (hx : x ∈ s.takenIds) :
    x ∈ e.newIds now c ∨ x ∈ c.foreignIds ∨ x ∈ e.state.takenIds := by
  rcases List.mem_append.1 hx with hkey | hid
  · rcases records_keys h hkey with hnew | hforeign | hold
    · exact Or.inl hnew
    · exact Or.inr (Or.inl hforeign)
    · exact Or.inr (Or.inr (List.mem_append_left _ hold))
  · rcases records_count h with ⟨sections, active, rfl, hsections⟩ | hcount
    · rw [hsections, Sections.projectIds_withSingleHome] at hid
      exact Or.inr (Or.inl (List.mem_append_right _ hid))
    · -- an id that occurs has to occur in one of the three
      have hpos := List.count_pos_iff.2 hid
      have hle := hcount x
      by_cases hnew : x ∈ e.newIds now c
      · exact Or.inl hnew
      by_cases hforeign : x ∈ c.foreignIds
      · exact Or.inr (Or.inl hforeign)
      rw [List.count_eq_zero_of_not_mem hnew, List.count_eq_zero_of_not_mem hforeign] at hle
      have hold : x ∈ projectIds e.state.sections := List.count_pos_iff.1 (by omega)
      exact Or.inr (Or.inr (List.mem_append_right _ hold))

/-- The ids that an update brings along end up in the forest, which had the updated element. -/
theorem edits_foreign {before after : Forest} {c : Command} (h : Edits before c after) {x : String}
    (hx : x ∈ c.foreignIds) : before ≠ [] ∧ x ∈ Forest.ids after := by
  cases c with
  | updateElement id patch =>
    simp only [Edits, Forest.update?] at h
    simp only [Command.foreignIds] at hx
    split at h
    · next hreorder =>
      rw [if_pos hreorder] at hx
      cases hx
    · next hpatch =>
      rw [if_neg hpatch] at hx
      refine ⟨?_, ?_⟩
      · rintro rfl
        simp [Forest.replaceFirst?] at h
      obtain ⟨target, -, hsplice⟩ := Forest.replaceFirst?_nodes h
      rw [Forest.ids_eq]
      apply (hsplice.map Node.id).subset
      rw [patch_ids]
      cases hchildren : patch.children with
      | none =>
        rw [hchildren] at hx
        cases hx
      | some children =>
        rw [hchildren] at hx
        exact List.mem_cons_of_mem _ hx
  | loadProject => exact h.elim
  | _ => cases hx

/-- What a command brings along is in the state that it records. -/
theorem records_foreign {e : Editor} {now : Int} {c : Command} {s : EditorState} {ids : IdSource}
    {guard : AddGuard} (h : Records e now c s ids guard) {x : String} (hx : x ∈ c.foreignIds) :
    x ∈ s.takenIds := by
  cases h with
  | edit _ after selected hedit =>
    obtain ⟨helements, hafter⟩ := edits_foreign hedit hx
    cases hactive : e.state.active? with
    | none => exact absurd (withElements_inactive hactive after).2 helements
    | some a =>
      apply List.mem_append_right
      exact (withElements_splices hactive after).subset hafter
  | project sections active =>
    simp only [EditorState.takenIds, Sections.keys_withSingleHome,
      Sections.projectIds_withSingleHome]
    exact hx
  | _ => cases hx

end Editor

end PageBuilder
