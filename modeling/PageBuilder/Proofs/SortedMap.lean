import PageBuilder.SortedMap
import Mathlib.Data.List.Nodup
import Mathlib.Tactic.Common

/-!
Sorted maps through their entries. Setting a key that has a value changes one entry in place, and
setting a new key adds one entry; the entries around it stay. A map made of entries with distinct
keys has just these entries.
-/

namespace PageBuilder

variable {α : Type}

namespace SortedMap

/-- A key with a value cuts the entries in two, and setting the key keeps both parts. -/
theorem entries_insert_of_some {m : SortedMap α} {key : String} {old : α}
    (h : m.get? key = some old) :
    ∃ before behind, m.entries = before ++ (key, old) :: behind ∧
      (∀ e ∈ before, e.1 ≠ key) ∧
      ∀ value, (m.insert key value).entries = before ++ (key, value) :: behind := by
  obtain ⟨entries, hasc⟩ := m
  unfold get? at h
  simp only [insert]
  induction entries with
  | nil => cases h
  | cons e rest ih =>
    obtain ⟨hhead, htail⟩ := List.pairwise_cons.1 hasc
    rw [List.lookup_cons] at h
    by_cases hkey : key = e.1
    · subst hkey
      simp only [BEq.rfl, Option.some.injEq] at h
      subst h
      refine ⟨[], rest, rfl, by simp, fun value => ?_⟩
      rw [insertEntry, if_neg (String.lt_irrefl _), if_pos rfl, List.nil_append]
    · have hne : (key == e.1) = false := by simpa using hkey
      simp only [hne] at h
      obtain ⟨before, behind, hrest, hbefore, hinsert⟩ := ih htail h
      -- the key stands further back, so the first entry comes before it
      have hmem : (key, old) ∈ rest := by
        rw [hrest]
        simp
      have hlt : ¬ key < e.1 := String.lt_asymm (hhead _ hmem)
      refine ⟨e :: before, behind, by simp [hrest], ?_, fun value => ?_⟩
      · intro x hx
        rcases List.mem_cons.1 hx with rfl | hx
        · exact fun hx => hkey hx.symm
        · exact hbefore x hx
      · simp [insertEntry, hlt, hkey, hinsert value]

/-- A key without a value has a place among the entries, and setting the key puts an entry there. -/
theorem entries_insert_of_none {m : SortedMap α} {key : String} (h : m.get? key = none) :
    ∃ before behind, m.entries = before ++ behind ∧
      ∀ value, (m.insert key value).entries = before ++ (key, value) :: behind := by
  obtain ⟨entries, hasc⟩ := m
  unfold get? at h
  simp only [insert]
  induction entries with
  | nil => exact ⟨[], [], rfl, fun _ => rfl⟩
  | cons e rest ih =>
    obtain ⟨hhead, htail⟩ := List.pairwise_cons.1 hasc
    rw [List.lookup_cons] at h
    have hkey : ¬ key = e.1 := by
      rintro rfl
      simp at h
    have hne : (key == e.1) = false := by simpa using hkey
    simp only [hne] at h
    by_cases hlt : key < e.1
    · exact ⟨[], e :: rest, rfl, fun value => by simp [insertEntry, hlt]⟩
    · obtain ⟨before, behind, hrest, hinsert⟩ := ih htail h
      exact ⟨e :: before, behind, by simp [hrest], fun value => by
        simp [insertEntry, hlt, hkey, hinsert value]⟩

theorem get?_eq_none {m : SortedMap α} {key : String} (h : key ∉ m.keys) : m.get? key = none := by
  unfold get?
  rw [List.lookup_eq_none_iff]
  intro e he
  have hne : key ≠ e.1 := fun hkey => h (hkey ▸ List.mem_map_of_mem he)
  simpa using hne

theorem contains_iff {m : SortedMap α} {key : String} : m.contains key = true ↔ key ∈ m.keys := by
  unfold contains get? keys
  rw [List.lookup_isSome_iff, List.mem_map]
  constructor
  · rintro ⟨e, he, hkey⟩
    exact ⟨e, he, (beq_iff_eq.1 hkey).symm⟩
  · rintro ⟨e, he, rfl⟩
    exact ⟨e, he, BEq.rfl⟩

/-- A key has one value only. -/
theorem eq_of_get? {m : SortedMap α} {key : String} {value other : α} (h : m.get? key = some value)
    (he : (key, other) ∈ m.entries) : other = value := by
  obtain ⟨before, behind, hentries, hbefore, -⟩ := entries_insert_of_some h
  have hasc := m.ascending
  rw [hentries] at he hasc
  obtain ⟨-, hbehind, -⟩ := List.pairwise_append.1 hasc
  rcases List.mem_append.1 he with he | he
  · exact absurd rfl (hbefore _ he)
  rcases List.mem_cons.1 he with heq | he
  · exact congrArg Prod.snd heq
  · -- the entries after it have larger keys
    exact absurd ((List.pairwise_cons.1 hbehind).1 _ he) (String.lt_irrefl _)

theorem mem_entries_insert_self (m : SortedMap α) (key : String) (value : α) :
    (key, value) ∈ (m.insert key value).entries := by
  cases h : m.get? key with
  | some old =>
    obtain ⟨before, behind, -, -, hinsert⟩ := entries_insert_of_some h
    simp [hinsert]
  | none =>
    obtain ⟨before, behind, -, hinsert⟩ := entries_insert_of_none h
    simp [hinsert]

theorem mem_keys_insert_self (m : SortedMap α) (key : String) (value : α) :
    key ∈ (m.insert key value).keys :=
  List.mem_map_of_mem (mem_entries_insert_self m key value)

theorem get?_insert_self (m : SortedMap α) (key : String) (value : α) :
    (m.insert key value).get? key = some value := by
  have hkey := contains_iff.2 (mem_keys_insert_self m key value)
  obtain ⟨found, hfound⟩ := Option.isSome_iff_exists.1 hkey
  rw [hfound, eq_of_get? hfound (mem_entries_insert_self m key value)]

theorem mem_keys_insert {m : SortedMap α} {key k : String} {value : α}
    (h : k ∈ (m.insert key value).keys) : k = key ∨ k ∈ m.keys := by
  obtain ⟨e, he, rfl⟩ := List.mem_map.1 h
  rcases mem_insertEntry he with rfl | he
  · exact Or.inl rfl
  · exact Or.inr (List.mem_map_of_mem he)

theorem mem_keys_erase {m : SortedMap α} {key k : String} :
    k ∈ (m.erase key).keys ↔ k ≠ key ∧ k ∈ m.keys := by
  simp only [keys, erase, List.mem_map, List.mem_filter, decide_eq_true_eq]
  constructor
  · rintro ⟨e, ⟨he, hne⟩, rfl⟩
    exact ⟨hne, e, he, rfl⟩
  · rintro ⟨hne, e, he, rfl⟩
    exact ⟨e, ⟨he, hne⟩, rfl⟩

theorem get?_eq_some_iff {m : SortedMap α} {key : String} {value : α} :
    m.get? key = some value ↔ (key, value) ∈ m.entries := by
  constructor
  · intro h
    obtain ⟨before, behind, hentries, -, -⟩ := entries_insert_of_some h
    simp [hentries]
  · intro h
    have hkey : m.contains key = true := contains_iff.2 (List.mem_map_of_mem h)
    obtain ⟨found, hfound⟩ := Option.isSome_iff_exists.1 hkey
    rw [hfound, eq_of_get? hfound h]

theorem entries_erase (m : SortedMap α) (key : String) :
    (m.erase key).entries = m.entries.filter fun e => decide (e.1 ≠ key) := rfl

theorem keys_nodup (m : SortedMap α) : m.keys.Nodup := by
  have hasc : m.keys.Pairwise (· < ·) := List.pairwise_map.2 m.ascending
  refine hasc.imp fun hlt heq => ?_
  rw [heq] at hlt
  exact String.lt_irrefl _ hlt

/-- Setting a key leaves its entry next to those of the other keys. -/
theorem entries_insert_perm (m : SortedMap α) (key : String) (value : α) :
    (m.insert key value).entries.Perm ((key, value) :: (m.erase key).entries) := by
  have hne {e : String × α} (h : e.1 ≠ key) : decide (e.1 ≠ key) = true := decide_eq_true h
  cases h : m.get? key with
  | some old =>
    obtain ⟨before, behind, hentries, hbefore, hinsert⟩ := entries_insert_of_some h
    have hasc := m.ascending
    rw [hentries] at hasc
    have hbehind : ∀ e ∈ behind, e.1 ≠ key := by
      intro e he hkey
      have hlt := (List.pairwise_cons.1 (List.pairwise_append.1 hasc).2.1).1 e he
      rw [hkey] at hlt
      exact String.lt_irrefl _ hlt
    have herase : (m.erase key).entries = before ++ behind := by
      rw [entries_erase, hentries, List.filter_append, List.filter_cons_of_neg (by simp),
        List.filter_eq_self.2 fun e he => hne (hbefore e he),
        List.filter_eq_self.2 fun e he => hne (hbehind e he)]
    rw [herase, hinsert]
    exact List.perm_middle
  | none =>
    obtain ⟨before, behind, hentries, hinsert⟩ := entries_insert_of_none h
    have herase : (m.erase key).entries = m.entries := by
      refine List.filter_eq_self.2 fun e he => hne fun hkey => ?_
      have hsome : m.get? key = some e.2 := get?_eq_some_iff.2 (hkey ▸ he)
      rw [h] at hsome
      cases hsome
    rw [herase, hentries, hinsert]
    exact List.perm_middle

/-- A map is looked up through a test of its keys. -/
theorem get?_filter (m : SortedMap α) (keep : String → Bool) (key : String) :
    (m.filter fun k _ => keep k).get? key = if keep key then m.get? key else none := by
  apply Option.ext
  intro value
  rw [get?_eq_some_iff]
  by_cases hkeep : keep key = true
  · rw [if_pos hkeep, get?_eq_some_iff]
    simp [filter, hkeep]
  · rw [if_neg hkeep]
    simp [filter, hkeep]

theorem get?_erase (m : SortedMap α) (key k : String) :
    (m.erase key).get? k = if k = key then none else m.get? k := by
  have h := get?_filter m (fun k => decide (k ≠ key)) k
  by_cases hk : k = key
  · rw [if_pos hk]
    rw [if_neg (by simp [hk])] at h
    exact h
  · rw [if_neg hk]
    rw [if_pos (by simp [hk])] at h
    exact h

theorem get?_insert (m : SortedMap α) (key k : String) (value : α) :
    (m.insert key value).get? k = if k = key then some value else m.get? k := by
  by_cases hk : k = key
  · rw [if_pos hk, hk, get?_insert_self]
  · rw [if_neg hk]
    apply Option.ext
    intro v
    have herase := get?_erase m key k
    rw [if_neg hk] at herase
    rw [← herase, get?_eq_some_iff, get?_eq_some_iff, (entries_insert_perm m key value).mem_iff,
      List.mem_cons, Prod.mk.injEq]
    exact or_iff_right fun h => hk h.1

/-- Entries in ascending order are determined by which ones they are. -/
theorem eq_of_perm {first second : List (String × α)} (hfirst : Ascending first)
    (hsecond : Ascending second) (h : first.Perm second) : first = second := by
  refine List.Perm.eq_of_pairwise (fun a b _ _ hab hba => ?_) hfirst hsecond h
  exact absurd (String.lt_trans hab hba) (String.lt_irrefl _)

/-- A map is determined by what its keys have. -/
theorem ext_get? {m n : SortedMap α} (h : ∀ key, m.get? key = n.get? key) : m = n := by
  apply SortedMap.ext
  apply eq_of_perm m.ascending n.ascending
  have hm : m.entries.Nodup := List.Nodup.of_map _ m.keys_nodup
  have hn : n.entries.Nodup := List.Nodup.of_map _ n.keys_nodup
  rw [List.perm_ext_iff_of_nodup hm hn]
  intro e
  rw [← get?_eq_some_iff, ← get?_eq_some_iff, h]

theorem get?_mapValues {β : Type} (m : SortedMap α) (f : α → β) (key : String) :
    (m.mapValues fun _ v => f v).get? key = (m.get? key).map f := by
  apply Option.ext
  intro value
  rw [get?_eq_some_iff, Option.map_eq_some_iff]
  simp only [mapValues, List.mem_map, Prod.mk.injEq]
  constructor
  · rintro ⟨e, he, rfl, rfl⟩
    exact ⟨e.2, get?_eq_some_iff.2 he, rfl⟩
  · rintro ⟨a, ha, rfl⟩
    exact ⟨(key, a), get?_eq_some_iff.1 ha, rfl, rfl⟩

/-- The map without some keys. -/
def without (m : SortedMap α) (gone : List String) : SortedMap α :=
  m.filter fun k _ => !gone.contains k

theorem without_nil (m : SortedMap α) : m.without [] = m := by
  apply SortedMap.ext
  exact List.filter_eq_self.2 fun _ _ => rfl

theorem without_erase (m : SortedMap α) (key : String) (gone : List String) :
    (m.erase key).without gone = m.without (key :: gone) := by
  apply SortedMap.ext
  simp only [without, erase, filter, List.filter_filter]
  apply List.filter_congr
  intro e _
  simp only [List.contains_cons]
  grind

theorem without_without (m : SortedMap α) (first second : List String) :
    (m.without first).without second = m.without (first ++ second) := by
  apply SortedMap.ext
  simp only [without, filter, List.filter_filter]
  apply List.filter_congr
  intro e _
  simp only [List.contains_append, Bool.not_or]
  exact Bool.and_comm _ _

theorem get?_without (m : SortedMap α) (gone : List String) (key : String) :
    (m.without gone).get? key = if key ∈ gone then none else m.get? key := by
  unfold without
  rw [get?_filter]
  by_cases h : key ∈ gone <;> simp [h]

end SortedMap

section Lookup

/-- No two entries have one key. -/
def DistinctKeys (entries : List (String × α)) : Prop := (entries.map Prod.fst).Nodup

theorem Ascending.distinctKeys {entries : List (String × α)} (h : Ascending entries) :
    DistinctKeys entries := SortedMap.keys_nodup ⟨entries, h⟩

theorem lookup_of_mem {entries : List (String × α)} (h : DistinctKeys entries) {key : String}
    {value : α} (hmem : (key, value) ∈ entries) : entries.lookup key = some value := by
  induction entries with
  | nil => cases hmem
  | cons e rest ih =>
    obtain ⟨hfresh, hrest⟩ := List.nodup_cons.1 h
    rcases List.mem_cons.1 hmem with rfl | hmem
    · rw [List.lookup_cons_self]
    · have hne : key ≠ e.1 := by
        rintro rfl
        exact hfresh (List.mem_map.2 ⟨_, hmem, rfl⟩)
      rw [List.lookup_cons, beq_false_of_ne hne]
      exact ih hrest hmem

theorem mem_of_lookup {entries : List (String × α)} {key : String} {value : α}
    (h : entries.lookup key = some value) : (key, value) ∈ entries := by
  induction entries with
  | nil => cases h
  | cons e rest ih =>
    rw [List.lookup_cons] at h
    split at h
    · next heq =>
      obtain rfl := Option.some.inj h
      rw [eq_of_beq heq]
      exact List.mem_cons_self ..
    · exact List.mem_cons_of_mem e (ih h)

theorem lookup_eq_none {entries : List (String × α)} {key : String}
    (h : key ∉ entries.map Prod.fst) : entries.lookup key = none := by
  cases hfound : entries.lookup key with
  | none => rfl
  | some value => exact absurd (List.mem_map_of_mem (mem_of_lookup hfound)) h

end Lookup

namespace SortedMap

theorem foldl_insert_perm (entries : List (String × α)) (m : SortedMap α)
    (h : DistinctKeys (entries ++ m.entries)) :
    (entries.foldl (fun m e => m.insert e.1 e.2) m).entries.Perm (entries ++ m.entries) := by
  induction entries generalizing m with
  | nil => exact List.Perm.refl _
  | cons e rest ih =>
    obtain ⟨hfresh, hrest⟩ := List.nodup_cons.1 h
    have hkept : (m.erase e.1).entries = m.entries := by
      refine List.filter_eq_self.2 fun x hx => decide_eq_true fun hkey => hfresh ?_
      rw [← hkey]
      exact List.mem_map_of_mem (List.mem_append_right rest hx)
    -- a new key takes nothing away
    have hinsert := entries_insert_perm m e.1 e.2
    rw [hkept] at hinsert
    have hmiddle : (rest ++ (m.insert e.1 e.2).entries).Perm (e :: rest ++ m.entries) :=
      (hinsert.append_left rest).trans List.perm_middle
    have hdistinct : DistinctKeys (rest ++ (m.insert e.1 e.2).entries) :=
      (hmiddle.map Prod.fst).nodup_iff.2 h
    exact (ih (m.insert e.1 e.2) hdistinct).trans hmiddle

/-- A map made of entries with distinct keys has these entries. -/
theorem ofList_perm {entries : List (String × α)} (h : DistinctKeys entries) :
    (ofList entries).entries.Perm entries := by
  have hperm := foldl_insert_perm entries empty (by rwa [empty, List.append_nil])
  rwa [empty, List.append_nil] at hperm

theorem get?_ofList {entries : List (String × α)} (h : DistinctKeys entries) {key : String}
    {value : α} : (ofList entries).get? key = some value ↔ (key, value) ∈ entries := by
  rw [get?_eq_some_iff, (ofList_perm h).mem_iff]

theorem mem_foldl_insert {entries : List (String × α)} {m : SortedMap α} {e : String × α}
    (h : e ∈ (entries.foldl (fun m e => m.insert e.1 e.2) m).entries) :
    e ∈ entries ∨ e ∈ m.entries := by
  induction entries generalizing m with
  | nil => exact Or.inr h
  | cons x rest ih =>
    rcases ih h with hrest | hinsert
    · exact Or.inl (List.mem_cons_of_mem x hrest)
    · rcases mem_insertEntry hinsert with rfl | hm
      · exact Or.inl (List.mem_cons_self ..)
      · exact Or.inr hm

theorem mem_of_mem_ofList {entries : List (String × α)} {e : String × α}
    (h : e ∈ (ofList entries).entries) : e ∈ entries := by
  rcases mem_foldl_insert h with he | he
  · exact he
  · cases he

end SortedMap

end PageBuilder
