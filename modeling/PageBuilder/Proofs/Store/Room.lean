import PageBuilder.Proofs.SortedMap
import PageBuilder.Store.ProjectStore
import Mathlib.Tactic.Common

/-!
Making room in a backend in memory. Whatever is stored there, saving removes some other entries and
then either sets its own or, where the record does not fit the quota alone, fails and leaves the
entry of its id as it was.
-/

namespace PageBuilder

section Sizes

variable (m : SortedMap Blob) (key : String)

theorem totalSize_eq : totalSize m = total (m.entries.map fun e => e.2.size) := by
  unfold totalSize SortedMap.values
  rw [List.map_map]
  rfl

theorem totalSize_insert (value : Blob) :
    totalSize (m.insert key value) = value.size + totalSize (m.erase key) := by
  have hperm := SortedMap.entries_insert_perm m key value
  rw [totalSize_eq, totalSize_eq, total_perm (hperm.map fun e => e.2.size)]
  rfl

theorem size_insert (value : Blob) : (m.insert key value).size = (m.erase key).size + 1 :=
  (SortedMap.entries_insert_perm m key value).length_eq

/-- The bytes of a map are those of one key and those of all others. -/
theorem totalSize_split : totalSize m = sizeAt m key + totalSize (m.erase key) := by
  unfold sizeAt
  cases h : m.get? key with
  | some value =>
    -- a map with a value set again is the map it was
    have hsame : m.insert key value = m := by
      apply SortedMap.ext
      obtain ⟨before, behind, hentries, -, hinsert⟩ := SortedMap.entries_insert_of_some h
      rw [hinsert, hentries]
    have htotal := totalSize_insert m key value
    rw [hsame] at htotal
    exact htotal
  | none =>
    have hsame : (m.erase key).entries = m.entries := by
      rw [SortedMap.entries_erase, List.filter_eq_self]
      intro e he
      have hne : e.1 ≠ key := by
        rintro rfl
        rw [SortedMap.get?_eq_some_iff.2 he] at h
        cases h
      simpa using hne
    rw [totalSize_eq, totalSize_eq, hsame]
    exact (Nat.zero_add _).symm

end Sizes

namespace MemoryBackend

variable (b : MemoryBackend) (key : String) (value : Blob)

/-- Setting a key succeeds exactly if its value fits the quota next to the other ones. -/
theorem set_cases :
    (b.quota.all (totalSize (b.entries.erase key) + value.size ≤ ·) = true ∧
      b.set key value = .ok { b with entries := b.entries.insert key value }) ∨
    (b.quota.all (totalSize (b.entries.erase key) + value.size ≤ ·) = false ∧
      ∃ available, b.set key value = .error (.quotaExceeded key value.size available)) := by
  have hothers : totalSize b.entries - sizeAt b.entries key = totalSize (b.entries.erase key) := by
    have := totalSize_split b.entries key
    omega
  unfold set checkQuota
  rw [hothers]
  cases b.quota with
  | none => exact Or.inl ⟨rfl, rfl⟩
  | some quota =>
    by_cases h : quota < totalSize (b.entries.erase key) + value.size
    · right
      simp only [h, if_true, Option.all_some, decide_eq_false_iff_not, Nat.not_le, true_and]
      exact ⟨_, rfl⟩
    · left
      simp only [h, if_false, Option.all_some, decide_eq_true_eq]
      exact ⟨Nat.not_lt.1 h, rfl⟩

end MemoryBackend

/-- The limits leave room for one more entry of a size, or nothing is left to remove. -/
def StoreConfig.Fits (c : StoreConfig) (size : Nat) (others : SortedMap Blob) : Prop :=
  others.entries = [] ∨
    others.size < c.maxRecords ∧ totalSize others + size ≤ c.byteBudget

/-- The same of entries as making room looks at them. -/
def StoreConfig.LeavesRoom (c : StoreConfig) (size : Nat) (left : List StoredEntry) : Prop :=
  left = [] ∨
    left.length < c.maxRecords ∧ total (left.map StoredEntry.bytes) + size ≤ c.byteBudget

/-- What goes is the shortest first part of the entries behind which there is room. -/
theorem evictions_take (c : StoreConfig) (size : Nat) (es : List StoredEntry) :
    ∃ n, evictions c size (total (es.map StoredEntry.bytes)) es.length es = es.take n ∧
      c.LeavesRoom size (es.drop n) ∧ ∀ m < n, ¬ c.LeavesRoom size (es.drop m) := by
  induction es with
  | nil => exact ⟨0, rfl, Or.inl rfl, fun m hm => absurd hm (Nat.not_lt_zero m)⟩
  | cons e rest ih =>
    rw [evictions]
    split
    · next hover =>
      -- the loop goes on with the bytes and the number of the entries behind this one
      obtain ⟨n, htake, hroom, hleast⟩ := ih
      refine ⟨n + 1, ?_, hroom, fun m hm => ?_⟩
      · simp only [List.map_cons, total, Nat.add_sub_cancel_left, List.length_cons,
          Nat.add_sub_cancel, htake, List.take_succ_cons]
      · cases m with
        | zero =>
          rintro (hnone | ⟨hcount, hbytes⟩)
          · cases hnone
          · rw [List.drop_zero] at hcount hbytes
            simp only [Bool.or_eq_true, decide_eq_true_eq] at hover
            omega
        | succ m => exact hleast m (Nat.lt_of_succ_lt_succ hm)
    · next hstop =>
      simp only [Bool.or_eq_true, decide_eq_true_eq, not_or, Nat.not_lt, Nat.not_le] at hstop
      exact ⟨0, rfl, Or.inr ⟨hstop.2, hstop.1⟩, fun m hm => absurd hm (Nat.not_lt_zero m)⟩

namespace ProjectStore

theorem valuesAt_entries (b : MemoryBackend) (es : List (String × Blob))
    (h : ∀ e ∈ es, e ∈ b.entries.entries) : valuesAt b (es.map Prod.fst) = .ok es := by
  induction es with
  | nil => rfl
  | cons e rest ih =>
    have hget : Backend.get b e.1 = .ok (some e.2) :=
      congrArg Except.ok (SortedMap.get?_eq_some_iff.2 (h e (List.mem_cons_self ..)))
    have hrest := ih fun x hx => h x (List.mem_cons_of_mem _ hx)
    rw [List.map_cons, valuesAt, hget, hrest]
    rfl

theorem removeAll_eq (b : MemoryBackend) (keys : List String) :
    removeAll b keys = (.ok (), { b with entries := b.entries.without keys }) := by
  induction keys generalizing b with
  | nil => rw [removeAll, SortedMap.without_nil]
  | cons key rest ih =>
    have hremove : Backend.remove b key =
        .ok (b.entries.contains key, { b with entries := b.entries.erase key }) := rfl
    rw [removeAll, hremove]
    simp only [ih, SortedMap.without_erase]

theorem otherKeys_eq (b : MemoryBackend) (id : String) :
    otherKeys b id = (b.entries.erase id).entries.map Prod.fst := by
  have hkeys : Backend.keys b = b.entries.entries.map Prod.fst := rfl
  unfold otherKeys
  rw [hkeys, List.filter_map, SortedMap.entries_erase]
  congr 1
  apply List.filter_congr
  intro e _
  by_cases h : e.1 = id <;> simp [h]

/-- A stored value as making room looks at it. -/
def entryAt (p : Packing) (now : Instant) (e : String × Blob) : StoredEntry :=
  ⟨e.1, e.2.size, (ProjectRecord.decode? p now e.2).map ProjectRecord.updatedAt⟩

/-- The entries that may have to go, in the order in which they do. -/
def candidates (p : Packing) (b : MemoryBackend) (now : Instant) (id : String) :
    List StoredEntry :=
  ((b.entries.erase id).entries.map (entryAt p now)).mergeSort StoredEntry.goesBefore

theorem otherEntries_eq (p : Packing) (b : MemoryBackend) (now : Instant) (id : String) :
    otherEntries p b now id = .ok (candidates p b now id) := by
  have hvalues : valuesAt b (otherKeys b id) = .ok (b.entries.erase id).entries := by
    rw [otherKeys_eq]
    exact valuesAt_entries b _ fun e he => (List.mem_filter.1 he).1
  unfold otherEntries
  rw [hvalues]
  rfl

theorem candidates_perm (p : Packing) (b : MemoryBackend) (now : Instant) (id : String) :
    (candidates p b now id).Perm ((b.entries.erase id).entries.map (entryAt p now)) :=
  List.mergeSort_perm _ _

theorem candidates_keys_nodup (p : Packing) (b : MemoryBackend) (now : Instant) (id : String) :
    ((candidates p b now id).map StoredEntry.key).Nodup := by
  have hperm := (candidates_perm p b now id).map StoredEntry.key
  rw [List.map_map] at hperm
  exact hperm.nodup_iff.2 (SortedMap.keys_nodup (b.entries.erase id))

/-- Without the keys of a first part of the candidates, the other part is left. -/
theorem kept_perm (p : Packing) (b : MemoryBackend) (now : Instant) (id : String)
    {first kept : List StoredEntry} (h : candidates p b now id = first ++ kept) :
    kept.Perm ((((b.entries.without (first.map StoredEntry.key)).erase id).entries).map
      (entryAt p now)) := by
  let stays (e : StoredEntry) : Bool := !(first.map StoredEntry.key).contains e.key
  have hnodup := candidates_keys_nodup p b now id
  have hkept : (candidates p b now id).filter stays = kept := by
    -- no key of the first part comes back in the other one
    rw [h, List.map_append] at hnodup
    obtain ⟨-, -, hdisjoint⟩ := List.nodup_append.1 hnodup
    rw [h, List.filter_append]
    have hgone : first.filter stays = [] := by
      rw [List.filter_eq_nil_iff]
      intro e he
      simpa [stays] using ⟨e, he, rfl⟩
    have hstay : kept.filter stays = kept := by
      rw [List.filter_eq_self]
      intro e he
      have hnew : e.key ∉ first.map StoredEntry.key := fun hmem =>
        hdisjoint _ hmem _ (List.mem_map_of_mem he) rfl
      simpa [stays] using hnew
    rw [hgone, hstay, List.nil_append]
  have hleft : ((b.entries.without (first.map StoredEntry.key)).erase id).entries =
      (b.entries.erase id).entries.filter (stays ∘ entryAt p now) := by
    simp only [SortedMap.entries_erase, SortedMap.without, SortedMap.filter, List.filter_filter]
    apply List.filter_congr
    intro e _
    exact Bool.and_comm _ _
  rw [hleft, ← List.filter_map, ← hkept]
  exact (candidates_perm p b now id).filter stays

theorem candidate_ne {p : Packing} {b : MemoryBackend} {now : Instant} {id : String}
    {e : StoredEntry} (h : e ∈ candidates p b now id) : e.key ≠ id := by
  obtain ⟨x, hx, rfl⟩ := List.mem_map.1 ((candidates_perm p b now id).mem_iff.1 h)
  have hne : x.1 ≠ id := of_decide_eq_true (List.mem_filter.1 hx).2
  exact hne

/-- Making room removes the shortest first part of the candidates behind which there is room. -/
theorem makeRoom_take (c : StoreConfig) (p : Packing) (b : MemoryBackend) (now : Instant)
    (id : String) (size : Nat) :
    ∃ n, c.LeavesRoom size ((candidates p b now id).drop n) ∧
      (∀ m < n, ¬ c.LeavesRoom size ((candidates p b now id).drop m)) ∧
      makeRoom c p b now id size = (.ok (), { b with
        entries := b.entries.without (((candidates p b now id).take n).map StoredEntry.key) }) := by
  obtain ⟨n, htake, hroom, hleast⟩ := evictions_take c size (candidates p b now id)
  have hgone := removeAll_eq b (((candidates p b now id).take n).map StoredEntry.key)
  rw [← htake] at hgone
  refine ⟨n, hroom, hleast, ?_⟩
  unfold makeRoom
  rw [otherEntries_eq, ← htake]
  exact hgone

/-- Making room removes some other entries, and leaves the others within the limits. -/
theorem makeRoom_spec (c : StoreConfig) (p : Packing) (b : MemoryBackend) (now : Instant)
    (id : String) (size : Nat) :
    ∃ gone, id ∉ gone ∧ c.Fits size ((b.entries.without gone).erase id) ∧
      makeRoom c p b now id size = (.ok (), { b with entries := b.entries.without gone }) := by
  obtain ⟨n, hroom, -, hmake⟩ := makeRoom_take c p b now id size
  have hperm := kept_perm p b now id (List.take_append_drop n (candidates p b now id)).symm
  refine ⟨((candidates p b now id).take n).map StoredEntry.key, fun hid => ?_, ?_, hmake⟩
  · obtain ⟨e, he, hkey⟩ := List.mem_map.1 hid
    exact candidate_ne (List.mem_of_mem_take he) hkey
  · rcases hroom with hnone | ⟨hcount, hbytes⟩
    · left
      rw [hnone] at hperm
      exact List.map_eq_nil_iff.1 (List.nil_perm.1 hperm)
    · right
      rw [hperm.length_eq, List.length_map] at hcount
      rw [total_perm (hperm.map StoredEntry.bytes), List.map_map] at hbytes
      refine ⟨hcount, ?_⟩
      rw [totalSize_eq]
      exact hbytes

/-- Without the other keys only the entry of an id can be left. -/
theorem without_otherKeys (b : MemoryBackend) (id : String) :
    (b.entries.without (otherKeys b id)).erase id = .empty ∧ id ∉ otherKeys b id := by
  have hmem (e : String × Blob) (he : e ∈ b.entries.entries) (hne : e.1 ≠ id) :
      e.1 ∈ otherKeys b id := by
    rw [otherKeys_eq, SortedMap.entries_erase]
    exact List.mem_map_of_mem (List.mem_filter.2 ⟨he, decide_eq_true hne⟩)
  constructor
  · apply SortedMap.ext
    rw [SortedMap.entries_erase, SortedMap.without, SortedMap.filter, List.filter_filter]
    refine List.filter_eq_nil_iff.2 fun e he => ?_
    by_cases hne : e.1 = id
    · simp [hne]
    · simp [hne, hmem e he hne]
  · intro hid
    have hself := (List.mem_filter.1 hid).2
    simp at hself

/-- Setting a value, if need be after all other ones are removed, fails only if it does not fit the
quota alone. -/
theorem place_spec (b : MemoryBackend) (id : String) (value : Blob) :
    ∃ gone, id ∉ gone ∧
      (b.quota.all (value.size ≤ ·) = true ∧
          place b id value =
            (.ok (), { b with entries := (b.entries.without gone).insert id value }) ∧
          (gone = [] ∨ (b.entries.without gone).erase id = .empty) ∨
        b.quota.all (value.size ≤ ·) = false ∧
          place b id value = (.error (.capacityExhausted id value.size),
            { b with entries := b.entries.without gone })) := by
  have hset (b : MemoryBackend) : Backend.set b id value = b.set id value := rfl
  rcases b.set_cases id value with ⟨hfits, hok⟩ | ⟨hfull, available, herror⟩
  · refine ⟨[], List.not_mem_nil, Or.inl ⟨?_, ?_, Or.inl rfl⟩⟩
    · cases hquota : b.quota with
      | none => rfl
      | some quota =>
        rw [hquota] at hfits
        simp only [Option.all_some, decide_eq_true_eq] at hfits ⊢
        omega
    · unfold place
      rw [hset, hok, SortedMap.without_nil]
  · -- next to the others there is no room, so all of them go and the value is set again
    let alone : MemoryBackend := { b with entries := b.entries.without (otherKeys b id) }
    obtain ⟨hempty, hid⟩ := without_otherKeys b id
    have hsize : totalSize (alone.entries.erase id) + value.size = value.size := by
      rw [show alone.entries.erase id = .empty from hempty]
      exact Nat.zero_add _
    have hretry := alone.set_cases id value
    rw [hsize] at hretry
    refine ⟨otherKeys b id, hid, ?_⟩
    rcases hretry with ⟨hfits, hok⟩ | ⟨hfull, available, hfail⟩
    · left
      refine ⟨hfits, ?_, Or.inr hempty⟩
      have hsecond : Backend.set alone id value = _ := hok
      unfold place
      rw [hset, herror]
      simp only [removeAll_eq, alone] at hsecond ⊢
      rw [hsecond]
    · right
      refine ⟨hfull, ?_⟩
      have hsecond : Backend.set alone id value = _ := hfail
      unfold place
      rw [hset, herror]
      simp only [removeAll_eq, alone] at hsecond ⊢
      rw [hsecond]

variable (s : ProjectStore MemoryBackend) (now : Instant) (r : ProjectRecord)

/-- The record that saving writes. -/
def written : ProjectRecord :=
  r.stamped (r.storageId now) now
    ((s.backend.entries.get? (r.storageId now)).bind (s.decoded? now))

/-- The store with other entries. -/
def holding (entries : SortedMap Blob) : ProjectStore MemoryBackend :=
  { s with backend := { s.backend with entries := entries } }

@[simp] theorem holding_encoded (entries : SortedMap Blob) :
    (s.holding entries).encoded = s.encoded := rfl

theorem save_eq :
    s.save now r =
      match makeRoom s.config s.packing s.backend now (s.written now r).id
        (s.encoded (s.written now r)).size with
      | (.error e, b) => (.error (.backend e), { s with backend := b })
      | (.ok (), b) =>
        ((place b (s.written now r).id (s.encoded (s.written now r))).1.map
            fun _ => s.written now r,
          { s with backend :=
            (place b (s.written now r).id (s.encoded (s.written now r))).2 }) := by
  have hget : Backend.get s.backend (r.storageId now) =
      .ok (s.backend.entries.get? (r.storageId now)) := rfl
  have hid : (s.written now r).id = r.storageId now := rfl
  unfold save
  simp only [hget, hid]
  rw [show r.stamped (r.storageId now) now _ = s.written now r from rfl]
  rcases makeRoom s.config s.packing s.backend now (r.storageId now)
    (s.encoded (s.written now r)).size with ⟨result | result, b⟩ <;> rfl

/-- Saving removes other entries, and then sets the record if that fits the quota alone. -/
theorem save_spec :
    ∃ gone, (s.written now r).id ∉ gone ∧
      (s.backend.quota.all ((s.encoded (s.written now r)).size ≤ ·) = true ∧
          s.save now r = (.ok (s.written now r), s.holding
            ((s.backend.entries.without gone).insert (s.written now r).id
              (s.encoded (s.written now r)))) ∧
          s.config.Fits (s.encoded (s.written now r)).size
            ((s.backend.entries.without gone).erase (s.written now r).id) ∨
        s.backend.quota.all ((s.encoded (s.written now r)).size ≤ ·) = false ∧
          s.save now r = (.error (.capacityExhausted (s.written now r).id
            (s.encoded (s.written now r)).size), s.holding (s.backend.entries.without gone))) := by
  let id := (s.written now r).id
  let value := s.encoded (s.written now r)
  obtain ⟨evicted, hevicted, hfits, hroom⟩ :=
    makeRoom_spec s.config s.packing s.backend now id value.size
  let roomy : MemoryBackend := { s.backend with entries := s.backend.entries.without evicted }
  obtain ⟨cleared, hcleared, hplace⟩ := place_spec roomy id value
  -- what making room and a second try remove is one list of keys
  have hentries : roomy.entries.without cleared = s.backend.entries.without (evicted ++ cleared) :=
    SortedMap.without_without _ _ _
  have hsave : s.save now r = ((place roomy id value).1.map fun _ => s.written now r,
      { s with backend := (place roomy id value).2 }) := by
    rw [save_eq, hroom]
  refine ⟨evicted ++ cleared, fun hid => (List.mem_append.1 hid).elim hevicted hcleared, ?_⟩
  rcases hplace with ⟨hquota, hplace, hempty⟩ | ⟨hquota, hplace⟩
  · left
    rw [hplace, hentries] at hsave
    refine ⟨hquota, hsave, ?_⟩
    rw [hentries] at hempty
    rcases hempty with rfl | hempty
    · rw [List.append_nil]
      exact hfits
    · exact Or.inl (congrArg SortedMap.entries hempty)
  · right
    rw [hplace, hentries] at hsave
    exact ⟨hquota, hsave⟩

end ProjectStore

end PageBuilder
