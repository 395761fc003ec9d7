import PageBuilder.Proofs.SortedMap
import PageBuilder.Section

/-!
The home section of a map of sections. Bringing a map to a single home marks just the section that
counted as home before, and changes nothing else.
-/

namespace PageBuilder

/-- The section without its home mark. -/
def Section.unmarked (s : Section) : Section := { s with isHome := false }

theorem keepFirstHome_unmarked (seen : Bool) (entries : List (String × Section)) :
    (keepFirstHome seen entries).map (fun e => (e.1, e.2.unmarked)) =
      entries.map fun e => (e.1, e.2.unmarked) := by
  induction entries generalizing seen with
  | nil => rfl
  | cons e rest ih =>
    rw [keepFirstHome, List.map_cons, List.map_cons, ih]
    rfl

theorem markFirst_unmarked (entries : List (String × Section)) :
    (markFirst entries).map (fun e => (e.1, e.2.unmarked)) =
      entries.map fun e => (e.1, e.2.unmarked) := by
  cases entries <;> rfl

/-- Behind a section marked home no other one stays marked. -/
theorem keepFirstHome_seen (entries : List (String × Section)) :
    (keepFirstHome true entries).filter (fun e => e.2.isHome) = [] := by
  induction entries with
  | nil => rfl
  | cons e rest ih => simp [keepFirstHome, ih]

/-- The first marked section stays marked, and no other one does. -/
theorem keepFirstHome_homes {entries : List (String × Section)} {home : String × Section}
    (h : entries.find? (fun e => e.2.isHome) = some home) :
    (keepFirstHome false entries).filter (fun e => e.2.isHome) =
      [(home.1, { home.2 with isHome := true })] := by
  induction entries with
  | nil => cases h
  | cons e rest ih =>
    rw [List.find?_cons] at h
    cases hmarked : e.2.isHome with
    | true =>
      simp only [hmarked, Option.some.injEq] at h
      subst h
      simp [keepFirstHome, hmarked, keepFirstHome_seen]
    | false =>
      simp only [hmarked] at h
      simpa [keepFirstHome, hmarked] using ih h

/-- Where no section is marked, marking the first one marks no other. -/
theorem markFirst_homes {entries : List (String × Section)} {first : String × Section}
    (hnone : entries.find? (fun e => e.2.isHome) = none) (h : entries.head? = some first) :
    (markFirst entries).filter (fun e => e.2.isHome) =
      [(first.1, { first.2 with isHome := true })] := by
  cases entries with
  | nil => cases h
  | cons e rest =>
    obtain rfl : e = first := by simpa using h
    have hrest : rest.filter (fun e => e.2.isHome) = [] := by
      rw [List.find?_eq_none] at hnone
      exact List.filter_eq_nil_iff.2 fun x hx => hnone x (List.mem_cons_of_mem _ hx)
    simp [markFirst, hrest]

namespace Sections

/-- Every section stands under its own id. -/
def KeyedById (m : Sections) : Prop := ∀ e ∈ m.entries, e.1 = e.2.id

instance (m : Sections) : Decidable m.KeyedById := inferInstanceAs (Decidable (∀ e ∈ m.entries, _))

/-- The entries of the sections that are marked home. -/
def homes (m : Sections) : List (String × Section) := m.entries.filter fun e => e.2.isHome

/-- The entry of the home section. -/
def homeEntry? (m : Sections) : Option (String × Section) :=
  (m.entries.find? fun e => e.2.isHome).or m.entries.head?

theorem home?_eq (m : Sections) : m.home? = m.homeEntry?.map Prod.snd := by
  unfold home? homeEntry? SortedMap.values
  rw [List.find?_map, List.head?_map, Option.map_or]
  rfl

theorem homeEntry?_mem {m : Sections} {e : String × Section} (h : m.homeEntry? = some e) :
    e ∈ m.entries := by
  rcases Option.or_eq_some_iff.1 h with h | ⟨-, h⟩
  · exact List.mem_of_find?_eq_some h
  · exact List.mem_of_head? h

theorem homeEntry?_of_homes {m : Sections} {e : String × Section} (h : m.homes = [e]) :
    m.homeEntry? = some e := by
  have hfirst : m.entries.find? (fun e => e.2.isHome) = some e := by
    rw [← List.head?_filter]
    exact congrArg List.head? h
  unfold homeEntry?
  rw [hfirst, Option.some_or]

/-- The one section that is marked home counts as home, under its id and its key. -/
theorem KeyedById.homeKey {m : Sections} (h : m.KeyedById) {key : String}
    (hkeys : m.homes.map Prod.fst = [key]) :
    m.home?.map Section.id = some key ∧ key ∈ m.keys := by
  obtain ⟨home, rest, hhomes, rfl, hrest⟩ := List.map_eq_cons_iff.1 hkeys
  rw [List.map_eq_nil_iff.1 hrest] at hhomes
  have hentry := homeEntry?_of_homes hhomes
  have hmem := homeEntry?_mem hentry
  refine ⟨?_, List.mem_map_of_mem hmem⟩
  rw [home?_eq, hentry, h home hmem]
  rfl

/-- A map that is not empty has a home section. -/
theorem exists_homeEntry? {m : Sections} (h : m.entries ≠ []) : ∃ e, m.homeEntry? = some e := by
  obtain ⟨first, rest, hentries⟩ := List.exists_cons_of_ne_nil h
  unfold homeEntry?
  cases hfind : m.entries.find? fun e => e.2.isHome with
  | some e => exact ⟨e, rfl⟩
  | none => exact ⟨first, by rw [hentries]; rfl⟩

theorem withSingleHome_unmarked (m : Sections) :
    m.withSingleHome.entries.map (fun e => (e.1, e.2.unmarked)) =
      m.entries.map fun e => (e.1, e.2.unmarked) := by
  unfold withSingleHome
  split
  · exact keepFirstHome_unmarked false m.entries
  · exact markFirst_unmarked m.entries

theorem withSingleHome_labels (m : Sections) :
    m.withSingleHome.entries.map (fun e => (e.1, e.2.id)) =
      m.entries.map fun e => (e.1, e.2.id) := by
  have hlabels (entries : List (String × Section)) :
      (entries.map fun e => (e.1, e.2.unmarked)).map (fun e => (e.1, e.2.id)) =
        entries.map fun e => (e.1, e.2.id) := by
    rw [List.map_map]
    rfl
  rw [← hlabels, withSingleHome_unmarked, hlabels]

theorem KeyedById.withSingleHome {m : Sections} (h : m.KeyedById) :
    m.withSingleHome.KeyedById := by
  intro e he
  have hlabel : (e.1, e.2.id) ∈ m.entries.map fun e => (e.1, e.2.id) := by
    rw [← withSingleHome_labels]
    exact List.mem_map_of_mem he
  obtain ⟨old, hold, heq⟩ := List.mem_map.1 hlabel
  have hkey := h old hold
  simp only [Prod.mk.injEq] at heq
  rw [← heq.1, ← heq.2, hkey]

/-- Exactly one section is marked afterwards, the home section of before. -/
theorem homes_withSingleHome {m : Sections} {e : String × Section} (h : m.homeEntry? = some e) :
    m.withSingleHome.homes = [(e.1, { e.2 with isHome := true })] := by
  have hany : m.values.any Section.isHome = (m.entries.find? fun e => e.2.isHome).isSome := by
    rw [Bool.eq_iff_iff, List.find?_isSome, ← List.any_eq_true]
    unfold SortedMap.values
    rw [List.any_map]
    rfl
  unfold withSingleHome homes
  cases hfind : m.entries.find? fun e => e.2.isHome with
  | some first =>
    have hfirst : first = e := by
      unfold homeEntry? at h
      rw [hfind, Option.some_or] at h
      exact Option.some.inj h
    rw [hfirst] at hfind
    rw [if_pos (by rw [hany, hfind]; rfl)]
    exact keepFirstHome_homes hfind
  | none =>
    have hhead : m.entries.head? = some e := by
      unfold homeEntry? at h
      rwa [hfind, Option.none_or] at h
    rw [if_neg (by rw [hany, hfind]; exact Bool.false_ne_true)]
    exact markFirst_homes hfind hhead

/-- Where the home section stands: the first of the marked sections in the order of keys, or the
first of all where none is marked. -/
structure HomeUnder (m : Sections) (key : String) (home : Section) : Prop where
  found : m.get? key = some home
  marked : (∃ k s, m.get? k = some s ∧ s.isHome = true) → home.isHome = true
  first : ∀ k s, m.get? k = some s → s.isHome = home.isHome → key ≤ k

/-- Keys do not go down behind an entry. -/
theorem le_of_mem_behind {m : Sections} {before behind : List (String × Section)}
    {e x : String × Section} (h : m.entries = before ++ e :: behind) (hx : x ∈ e :: behind) :
    e.1 ≤ x.1 := by
  have hasc := m.ascending
  rw [h] at hasc
  rcases List.mem_cons.1 hx with rfl | hx
  · exact String.le_refl _
  · have hlt := (List.pairwise_cons.1 (List.pairwise_append.1 hasc).2.1).1 x hx
    exact String.not_lt.1 (String.lt_asymm hlt)

theorem HomeUnder.of_entry {m : Sections} {e : String × Section} (h : m.homeEntry? = some e) :
    m.HomeUnder e.1 e.2 := by
  refine ⟨SortedMap.get?_eq_some_iff.2 (homeEntry?_mem h), ?_, ?_⟩
  · rintro ⟨k, s, hget, hmarked⟩
    rcases Option.or_eq_some_iff.1 h with hfind | ⟨hnone, -⟩
    · have hfirst := List.find?_some hfind
      exact hfirst
    · exact absurd hmarked (List.find?_eq_none.1 hnone _ (SortedMap.get?_eq_some_iff.1 hget))
  · intro k s hget hsame
    have hks := SortedMap.get?_eq_some_iff.1 hget
    rcases Option.or_eq_some_iff.1 h with hfind | ⟨-, hhead⟩
    · obtain ⟨hmarked, before, behind, hentries, hbefore⟩ := List.find?_eq_some_iff_append.1 hfind
      rw [hentries] at hks
      rcases List.mem_append.1 hks with hks | hks
      · -- no section in front of the home section is marked
        have hunmarked := hbefore _ hks
        rw [hsame, hmarked] at hunmarked
        cases hunmarked
      · exact le_of_mem_behind hentries hks
    · obtain ⟨rest, hentries⟩ := List.head?_eq_some_iff.1 hhead
      rw [hentries] at hks
      exact @le_of_mem_behind m [] rest e _ hentries hks

theorem withSingleHome_isHome {m : Sections} {e : String × Section} (h : m.homeEntry? = some e) :
    ∀ x ∈ m.withSingleHome.entries, x.2.isHome = decide (x.1 = e.1) := by
  have hhomes := homes_withSingleHome h
  intro x hx
  rw [Bool.eq_iff_iff, decide_eq_true_iff]
  constructor
  · intro hmarked
    have hmem : x ∈ m.withSingleHome.homes := List.mem_filter.2 ⟨hx, hmarked⟩
    rw [hhomes, List.mem_singleton] at hmem
    rw [hmem]
  · intro hkey
    have hhome : (e.1, { e.2 with isHome := true }) ∈ m.withSingleHome.homes := by
      rw [hhomes]
      exact List.mem_singleton_self _
    have hget := SortedMap.get?_eq_some_iff.2 (List.mem_of_mem_filter hhome)
    have hsection : x.2 = { e.2 with isHome := true } :=
      SortedMap.eq_of_get? hget (by rwa [← hkey])
    rw [hsection]

/-- Bringing a map to a single home moves the mark to the home section, and does nothing else. -/
theorem withSingleHome_eq {m : Sections} {e : String × Section} (h : m.homeEntry? = some e) :
    m.withSingleHome = m.mapValues fun key s => { s with isHome := decide (key = e.1) } := by
  let remark (x : String × Section) : String × Section :=
    (x.1, { x.2 with isHome := decide (x.1 = e.1) })
  have hremark (entries : List (String × Section)) :
      (entries.map fun x => (x.1, x.2.unmarked)).map remark = entries.map remark := by
    rw [List.map_map]
    rfl
  apply SortedMap.ext
  calc m.withSingleHome.entries
      = m.withSingleHome.entries.map remark := by
        refine (List.map_id' _).symm.trans (List.map_congr_left fun x hx => ?_)
        change x = (x.1, { x.2 with isHome := decide (x.1 = e.1) })
        rw [← withSingleHome_isHome h x hx]
    _ = m.entries.map remark := by
        rw [← hremark, withSingleHome_unmarked, hremark]

theorem homeEntry?_withSingleHome {m : Sections} {e : String × Section}
    (h : m.homeEntry? = some e) :
    m.withSingleHome.homeEntry? = some (e.1, { e.2 with isHome := true }) :=
  homeEntry?_of_homes (homes_withSingleHome h)

theorem withSingleHome_twice (m : Sections) :
    m.withSingleHome.withSingleHome = m.withSingleHome := by
  by_cases hempty : m.entries = []
  · obtain rfl : m = SortedMap.empty := SortedMap.ext hempty
    rfl
  · obtain ⟨e, he⟩ := exists_homeEntry? hempty
    rw [withSingleHome_eq (homeEntry?_withSingleHome he), withSingleHome_eq he]
    apply SortedMap.ext
    simp only [SortedMap.mapValues, List.map_map]
    rfl

/-- Bringing a map to a single home leaves exactly one section marked, the one that counted as home
before, and it stays the home section under its key. Keys and all other fields of all sections stay
as they are, and doing it again changes nothing. The empty map stays empty. -/
theorem one_home_is_marked (m : Sections) :
    (m.isEmpty = true → m.withSingleHome = m) ∧
    (m.isEmpty = false → ∃ key home,
      m.HomeUnder key home ∧ m.home? = some home ∧
      m.withSingleHome = (m.mapValues fun k s => { s with isHome := decide (k = key) }) ∧
      m.withSingleHome.homes = [(key, { home with isHome := true })] ∧
      m.withSingleHome.HomeUnder key { home with isHome := true } ∧
      m.withSingleHome.home? = some { home with isHome := true } ∧
      m.withSingleHome.withSingleHome = m.withSingleHome) := by
  constructor
  · intro hempty
    obtain rfl : m = SortedMap.empty := SortedMap.ext (List.isEmpty_iff.1 hempty)
    rfl
  · intro hsections
    have hentries : m.entries ≠ [] := fun hnil => by
      rw [SortedMap.isEmpty, hnil] at hsections
      cases hsections
    obtain ⟨⟨key, home⟩, hhome⟩ := exists_homeEntry? hentries
    have hafter := homeEntry?_withSingleHome hhome
    refine ⟨key, home, .of_entry hhome, ?_, withSingleHome_eq hhome,
      homes_withSingleHome hhome, .of_entry hafter, ?_, withSingleHome_twice m⟩
    · rw [home?_eq, hhome]
      rfl
    · rw [home?_eq, hafter]
      rfl

/-- Two marked sections with one id, behind an unmarked one. -/
def twinHomes : Sections :=
  SortedMap.ofList [("a", .new "x" "Start"), ("b", .home "y" "Home"), ("c", .home "y" "Home")]

theorem one_home_is_marked_twins :
    twinHomes.isEmpty = false ∧ twinHomes.homes.map Prod.fst = ["b", "c"] ∧
      ∃ key home, twinHomes.HomeUnder key home ∧ key = "b" ∧
        twinHomes.withSingleHome =
          (twinHomes.mapValues fun k s => { s with isHome := decide (k = key) }) ∧
        twinHomes.withSingleHome.withSingleHome = twinHomes.withSingleHome := by
  have hsections : twinHomes.isEmpty = false := by decide +kernel
  obtain ⟨key, home, hhome, -, hmoved, hhomes, -, -, htwice⟩ :=
    (one_home_is_marked twinHomes).2 hsections
  have hkeys : twinHomes.withSingleHome.homes.map Prod.fst = ["b"] := by decide +kernel
  rw [hhomes] at hkeys
  exact ⟨hsections, by decide +kernel, key, home, hhome, List.head_eq_of_cons_eq hkeys, hmoved,
    htwice⟩

end Sections

end PageBuilder
