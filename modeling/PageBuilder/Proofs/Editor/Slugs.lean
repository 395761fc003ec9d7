import PageBuilder.Proofs.Editor.Frame
import Mathlib.Data.List.Perm.Subperm
import Mathlib.Data.Nat.Find

/-!
Slugs of added sections. The slugs that are tried under a name differ from each other, so one more of
them than there are sections cannot all be taken: the search for a free one ends, and it ends with
the first. Sections that only come from adding never share a slug.
-/

namespace PageBuilder

section Search

variable (taken : List String) (base : String)

/-- The slugs that are tried in turn: the plain one and then the numbered ones, from 2 on. -/
def slugCandidate : Nat → String
  | 0 => base
  | n + 1 => base ++ "-" ++ toString (n + 2)

/-- The search for a slug, with the slug at hand, the next number, the rounds that it takes and what
it finds. As long as the slug at hand is taken, the next numbered one takes its place. -/
inductive SlugSearch : String → Nat → Nat → String → Prop
  | free {slug : String} {n : Nat} : slug ∉ taken → SlugSearch slug n 0 slug
  | next {slug : String} {n rounds : Nat} {found : String} : slug ∈ taken →
      SlugSearch (base ++ "-" ++ toString n) (n + 1) rounds found →
      SlugSearch slug n (rounds + 1) found

variable {taken base}

theorem SlugSearch.unique {slug : String} {n rounds others : Nat} {found other : String}
    (h : SlugSearch taken base slug n rounds found)
    (hother : SlugSearch taken base slug n others other) : others = rounds ∧ other = found := by
  induction h generalizing others with
  | free hfree =>
    cases hother with
    | free => exact ⟨rfl, rfl⟩
    | next htaken => exact absurd htaken hfree
  | next htaken _ ih =>
    cases hother with
    | free hfree => exact absurd htaken hfree
    | next _ hrest =>
      obtain ⟨hrounds, hfound⟩ := ih hrest
      exact ⟨congrArg (· + 1) hrounds, hfound⟩

/-- Past taken candidates the search comes to the first one that is free. -/
theorem slugSearch_of_free (first rounds : Nat)
    (htaken : ∀ i < rounds, slugCandidate base (first + i) ∈ taken)
    (hfree : slugCandidate base (first + rounds) ∉ taken) :
    SlugSearch taken base (slugCandidate base first) (first + 2) rounds
      (slugCandidate base (first + rounds)) := by
  induction rounds generalizing first with
  | zero => exact .free hfree
  | succ rounds ih =>
    -- one round for the slug at hand, the others as a search from the next number on
    have hshift (i : Nat) : first + 1 + i = first + (i + 1) := by omega
    have hrest := ih (first + 1) (fun i hi => hshift i ▸ htaken (i + 1) (by omega))
      (hshift rounds ▸ hfree)
    rw [hshift rounds] at hrest
    exact .next (htaken 0 (Nat.succ_pos _)) hrest

theorem slugCandidate_injective (base : String) : Function.Injective (slugCandidate base) := by
  -- a numbered candidate is longer than the plain one
  have hlonger (n : Nat) : base ≠ base ++ "-" ++ toString (n + 2) := by
    intro h
    have hlength := congrArg String.length h
    rw [String.length_append, String.length_append] at hlength
    have hdash : "-".length = 1 := by decide
    omega
  intro m n h
  cases m with
  | zero =>
    cases n with
    | zero => rfl
    | succ n => exact absurd h (hlonger n)
  | succ m =>
    cases n with
    | zero => exact absurd h.symm (hlonger m)
    | succ n =>
      have hnumber := congrArg String.toList h
      simp only [slugCandidate, String.toList_append] at hnumber
      have hsame := toString_injective (String.toList_inj.1 (List.append_cancel_left hnumber))
      omega

/-- Of the candidates, one more than there are slugs taken, not all are taken. -/
theorem exists_free_candidate (taken : List String) (base : String) :
    ∃ n ≤ taken.length, slugCandidate base n ∉ taken := by
  by_contra hnone
  have hall (n : Nat) (hn : n ≤ taken.length) : slugCandidate base n ∈ taken :=
    not_not.1 fun hfree => hnone ⟨n, hn, hfree⟩
  have hdistinct : ((List.range (taken.length + 1)).map (slugCandidate base)).Nodup :=
    List.nodup_range.map (slugCandidate_injective base)
  have hsub : (List.range (taken.length + 1)).map (slugCandidate base) ⊆ taken := by
    intro slug hslug
    obtain ⟨n, hn, rfl⟩ := List.mem_map.1 hslug
    exact hall n (Nat.lt_succ_iff.1 (List.mem_range.1 hn))
  have hlength := (hdistinct.subperm hsub).length_le
  rw [List.length_map, List.length_range] at hlength
  omega

/-- The free slug is the first candidate that is not taken, at the latest the one behind as many
candidates as there are slugs taken. -/
theorem freeSlug_eq_candidate (taken : List String) (base : String) :
    ∃ rounds ≤ taken.length, freeSlug taken base = slugCandidate base rounds ∧
      slugCandidate base rounds ∉ taken ∧ ∀ i < rounds, slugCandidate base i ∈ taken := by
  have hexists : ∃ n, slugCandidate base n ∉ taken := by
    obtain ⟨n, -, hn⟩ := exists_free_candidate taken base
    exact ⟨n, hn⟩
  have hbefore (i : Nat) (hi : i < Nat.find hexists) : slugCandidate base i ∈ taken :=
    not_not.1 (Nat.find_min hexists hi)
  have hbound : Nat.find hexists ≤ taken.length := by
    obtain ⟨n, hn, hfree⟩ := exists_free_candidate taken base
    exact Nat.le_trans (Nat.find_min' hexists hfree) hn
  have hfree := Nat.find_spec hexists
  refine ⟨Nat.find hexists, hbound, ?_, hfree, hbefore⟩
  generalize Nat.find hexists = rounds at hbefore hbound hfree
  unfold freeSlug
  cases rounds with
  | zero =>
    have hplain : base ∉ taken := hfree
    rw [if_neg (by simpa using hplain)]
    rfl
  | succ n =>
    have hplain : base ∈ taken := hbefore 0 (Nat.succ_pos n)
    have hfirst : (List.range (taken.length + 1)).find? (fun i =>
        !taken.contains (slugCandidate base (i + 1))) = some n := by
      rw [List.find?_range_eq_some]
      refine ⟨by simpa using hfree, List.mem_range.2 (by omega), fun i hi => ?_⟩
      simpa using hbefore (i + 1) (by omega)
    rw [if_pos (by simpa using hplain)]
    change (((List.range (taken.length + 1)).map fun i => slugCandidate base (i + 1)).find?
      fun slug => !taken.contains slug).getD base = _
    rw [List.find?_map, Function.comp_def, hfirst]
    rfl

/-- The search ends after at most as many rounds as there are slugs taken. -/
theorem slugSearch_iff (taken : List String) (base : String) :
    ∃ rounds ≤ taken.length, ∀ n found,
      SlugSearch taken base base 2 n found ↔ n = rounds ∧ found = freeSlug taken base := by
  obtain ⟨rounds, hrounds, hslug, hfree, htaken⟩ := freeSlug_eq_candidate taken base
  have hsearch : SlugSearch taken base base 2 rounds (freeSlug taken base) := by
    have hfound := @slugSearch_of_free taken base 0 rounds
    simp only [Nat.zero_add] at hfound
    rw [hslug]
    exact hfound htaken hfree
  refine ⟨rounds, hrounds, fun n found => ⟨fun h => hsearch.unique h, ?_⟩⟩
  rintro ⟨rfl, rfl⟩
  exact hsearch

theorem freeSlug_not_mem (taken : List String) (base : String) : freeSlug taken base ∉ taken := by
  obtain ⟨rounds, -, hslug, hfree, -⟩ := freeSlug_eq_candidate taken base
  rwa [hslug]

theorem freeSlug_plain (h : base ∉ taken) : freeSlug taken base = base := by
  unfold freeSlug
  rw [if_neg (by simpa using h)]

/-- A taken slug gets the least number that makes it free. -/
theorem freeSlug_numbered (h : base ∈ taken) :
    ∃ n, 2 ≤ n ∧ freeSlug taken base = base ++ "-" ++ toString n ∧
      ∀ m, 2 ≤ m → m < n → base ++ "-" ++ toString m ∈ taken := by
  obtain ⟨rounds, -, hslug, hfree, htaken⟩ := freeSlug_eq_candidate taken base
  cases rounds with
  | zero => exact absurd h hfree
  | succ n =>
    refine ⟨n + 2, Nat.le_add_left 2 n, hslug, fun m hm hlt => ?_⟩
    obtain ⟨i, rfl⟩ := Nat.exists_eq_add_of_le' hm
    exact htaken (i + 1) (by omega)

end Search

/-- The command loads a project. -/
def Command.loadsProject : Command → Bool
  | .loadProject _ _ => true
  | _ => false

namespace EditorState

/-- The slugs of the sections, in the order of their keys. -/
def slugs (s : EditorState) : List String := s.sections.values.map Section.slug

theorem slugs_eq (s : EditorState) : s.slugs = s.sections.entries.map fun e => e.2.slug := by
  rw [slugs, SortedMap.values, List.map_map]
  rfl

theorem withElements_slugs (s : EditorState) (forest : Forest) :
    (s.withElements forest).slugs = s.slugs := by
  cases hactive : s.active? with
  | none => rw [(withElements_inactive hactive forest).1]
  | some a =>
    obtain ⟨before, behind, hentries, hafter⟩ := withElements_entries hactive forest
    rw [slugs_eq, slugs_eq, hentries, hafter, List.map_append, List.map_append, List.map_cons,
      List.map_cons]

theorem erase_slugs_sublist (s : EditorState) (key : String) :
    ((s.sections.erase key).entries.map fun e => e.2.slug).Sublist s.slugs := by
  rw [slugs_eq, SortedMap.entries_erase]
  exact List.filter_sublist.map _

theorem withoutSection_slugs {s : EditorState} (h : s.slugs.Nodup) (key : String) :
    (s.withoutSection key).slugs.Nodup := by
  rw [slugs_eq, withoutSection_sections]
  exact h.sublist (erase_slugs_sublist s key)

/-- A section with a slug that is not in use keeps slugs distinct, also where it takes the place of
another one. -/
theorem withSection_slugs {s : EditorState} (h : s.slugs.Nodup) {added : Section}
    (hfree : added.slug ∉ s.slugs) : (s.withSection added).slugs.Nodup := by
  have hsub := erase_slugs_sublist s added.id
  have hperm := (SortedMap.entries_insert_perm s.sections added.id added).map fun e => e.2.slug
  rw [slugs_eq]
  refine hperm.symm.nodup (List.nodup_cons.2 ⟨?_, h.sublist hsub⟩)
  exact fun hmem => hfree (hsub.subset hmem)

end EditorState

namespace Editor

open EditorState

variable {e : Editor} {now : Int} {c : Command}

/-- The sections of each state of the session have slugs of their own. -/
def DistinctSlugs (e : Editor) : Prop := ∀ s ∈ e.states, s.slugs.Nodup

theorem newSection_slug_free (e : Editor) (name : String) :
    (e.newSection name).slug ∉ e.state.slugs := freeSlug_not_mem _ _

theorem records_slugs {s : EditorState} {ids : IdSource} {guard : AddGuard}
    (h : Records e now c s ids guard) (hload : c.loadsProject = false) (hslugs : e.state.slugs.Nodup) :
    s.slugs.Nodup := by
  have hforest (forest : Forest) : (e.state.withElements forest).slugs.Nodup := by
    rwa [withElements_slugs]
  cases h with
  | add element haccepted => exact hforest _
  | edit _ after selected hedit => exact hforest after
  | template elements => exact hforest _
  | project => cases hload
  | addSection name => exact withSection_slugs hslugs (newSection_slug_free e name)
  | removeSection id => exact withoutSection_slugs hslugs id

theorem step_distinctSlugs (h : e.DistinctSlugs) (hload : c.loadsProject = false) :
    (e.step now c).2.DistinctSlugs := by
  intro s hs
  have hcurrent := h e.state (List.mem_cons_self ..)
  rcases step_states e now c hs with hold | hamends | ⟨-, guard, hrecords⟩
  · exact h s hold
  · rwa [slugs, amends_sections hamends]
  · exact records_slugs hrecords hload hcurrent

theorem after_distinctSlugs (h : e.DistinctSlugs) {script : List (Int × Command)}
    (hscript : ∀ entry ∈ script, entry.2.loadsProject = false) : (e.after script).DistinctSlugs := by
  induction script generalizing e with
  | nil => exact h
  | cons first rest ih =>
    obtain ⟨hfirst, hrest⟩ := List.forall_mem_cons.1 hscript
    exact ih (step_distinctSlugs h hfirst) hrest

theorem new_distinctSlugs (config : EditorConfig) (key : String) :
    (Editor.new config key).DistinctSlugs := by
  intro s hs
  rw [new_states, List.mem_singleton] at hs
  subst hs
  exact List.nodup_singleton _

/-- Adding a section always goes through, and the search for its slug ends after at most as many
rounds as there are sections, whatever slugs these have. It ends with the slug of the added section:
the plain one of its name, or, if that is taken, the first numbered one that is not. So in every
session in which no project is loaded, no two sections of a state share a slug, also in the states
that undoing and redoing bring back. -/
theorem added_slugs_free :
    (∀ (e : Editor) (now : Int) (name : String),
      let taken := e.state.slugs
      let base := slugify name
      ∃ added next, e.step now (.addSection name) = (.ok .applied, next) ∧
        next.state = e.state.withSection added ∧ next.state.active? = some added ∧
        (∃ rounds ≤ e.state.sections.size, ∀ n found,
          SlugSearch taken base base 2 n found ↔ n = rounds ∧ found = added.slug) ∧
        (base ∉ taken → added.slug = base) ∧
        (base ∈ taken → ∃ n, 2 ≤ n ∧ added.slug = base ++ "-" ++ toString n ∧
          ∀ m, 2 ≤ m → m < n → base ++ "-" ++ toString m ∈ taken) ∧
        added.slug ∉ taken) ∧
    ∀ (config : EditorConfig) (key : String) (script : List (Int × Command)),
      (∀ entry ∈ script, entry.2.loadsProject = false) →
      ∀ s ∈ ((Editor.new config key).after script).states, s.slugs.Nodup := by
  constructor
  · intro e now name taken base
    have hsize : e.state.sections.size = taken.length := by
      change _ = e.state.slugs.length
      rw [slugs_eq, List.length_map]
      rfl
    rw [hsize]
    exact ⟨e.newSection name, _, rfl, rfl, SortedMap.get?_insert_self .., slugSearch_iff taken base,
      freeSlug_plain, freeSlug_numbered, freeSlug_not_mem taken base⟩
  · intro config key script hscript
    exact after_distinctSlugs (new_distinctSlugs config key) hscript

/-- Pages with one name, of which the first is removed, and its slug taken again, before two changes
are undone. -/
def namesakePages : List (Int × Command) :=
  [(0, .addSection "About"), (1, .addSection "About!"), (2, .removeSection "f6e9fbe0-1"),
    (3, .addSection "about"), (4, .undo), (5, .undo), (6, .addSection "Home")]

theorem added_slugs_free_namesakes :
    let e := (Editor.new {} "oracle").after namesakePages
    (∀ entry ∈ namesakePages, entry.2.loadsProject = false) ∧
      (∀ s ∈ e.states, s.slugs.Nodup) ∧ e.state.slugs = ["about", "about-2", "home-2", "home"] ∧
      slugify "About" ∈ e.state.slugs ∧
      ∃ added next, e.step 7 (.addSection "About") = (.ok .applied, next) ∧
        next.state.active? = some added ∧ added.slug ∉ e.state.slugs ∧
        ∃ n, 2 ≤ n ∧ added.slug = slugify "About" ++ "-" ++ toString n := by
  intro e
  have hscript : ∀ entry ∈ namesakePages, entry.2.loadsProject = false := by decide
  have htaken : slugify "About" ∈ e.state.slugs := by decide +kernel
  obtain ⟨hadded, hdistinct⟩ := added_slugs_free
  obtain ⟨added, next, hstep, -, hopen, -, -, hnumbered, hfree⟩ := hadded e 7 "About"
  obtain ⟨n, hn, hslug, -⟩ := hnumbered htaken
  exact ⟨hscript, hdistinct {} "oracle" namesakePages hscript, by decide +kernel, htaken, added,
    next, hstep, hopen, hfree, n, hn, hslug⟩

end Editor

end PageBuilder
