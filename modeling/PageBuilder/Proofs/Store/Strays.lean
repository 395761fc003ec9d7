import PageBuilder.Proofs.Store.Laws
import PageBuilder.Proofs.Store.Records

/-!
Strays in a store directory. Every file name with the right ending makes a key, also where the key
is refused when it is looked at. As long as no key is refused, a directory serves a store like a
backend in memory; a single refused key makes every list fail, and every save under another id.
-/

namespace PageBuilder

namespace FileBackend

/-- A name can be read: it is short enough and, if it is there at all, the name of a file. -/
def Readable (b : FileBackend) (name : String) : Prop := ∃ value, b.value? name = .ok value

/-- A key can have a file: it is valid, and the name of its file is short enough. -/
def Nameable (b : FileBackend) (key : String) : Prop :=
  validKey key = true ∧ b.ShortName (fileName key)

/-- A key can be looked at: it is valid, and its file can be read. -/
def Usable (b : FileBackend) (key : String) : Prop :=
  validKey key = true ∧ b.Readable (fileName key)

variable {b f : FileBackend} {m : MemoryBackend} {key id : String}

theorem get_ok_iff : (∃ value, Backend.get b key = .ok value) ↔ b.Usable key := by
  change (∃ value, b.get key = .ok value) ↔ _
  rw [get_eq]
  by_cases hkey : validKey key = true
  · simp [Usable, Readable, hkey]
  · simp [Usable, hkey]

theorem remove_ok_iff : (∃ removed, Backend.remove b key = .ok removed) ↔ b.Usable key := by
  change (∃ removed, b.remove key = .ok removed) ↔ _
  rw [remove_eq]
  by_cases hkey : validKey key = true
  · rw [if_pos hkey]
    cases hvalue : b.value? (fileName key) with
    | error e => simp [Usable, Readable, hvalue, Except.map]
    | ok value => simp [Usable, Readable, hkey, hvalue, Except.map]
  · simp [Usable, hkey]

/-- The values that the directory holds for its keys, with an empty one where there is no file. -/
def inMemory (b : FileBackend) : MemoryBackend :=
  ⟨b.entries.mapValues fun _ entry => entry.contents.toOption.getD (.text ""), b.quota⟩

theorem inMemory_keys (b : FileBackend) : b.inMemory.entries.keys = b.entries.keys := by
  rw [inMemory, SortedMap.keys, SortedMap.mapValues, List.map_map]
  rfl

/-- A directory without refused keys shows the values that it holds. -/
theorem shows_inMemory (h : ∀ key ∈ Backend.keys b, b.Usable key) : b.Shows b.inMemory where
  quota := rfl
  holds key hkey := by
    have hentry := get?_entries b hkey
    rw [inMemory, SortedMap.get?_mapValues, hentry]
    cases hfile : b.files.get? (fileName key) with
    | none => rfl
    | some entry =>
      have hmem : key ∈ b.entries.keys := by
        rw [← SortedMap.contains_iff, SortedMap.contains, hentry, hfile]
        rfl
      obtain ⟨-, value, hvalue⟩ := h key hmem
      cases entry with
      | file contents => rfl
      | directory =>
        -- a directory with the name of a file cannot be read
        unfold value? at hvalue
        rw [hfile] at hvalue
        split at hvalue <;> cases hvalue
  valid key hmem := by
    rw [inMemory_keys] at hmem
    exact (h key hmem).1
  short key hmem := by
    rw [inMemory_keys] at hmem
    obtain ⟨-, value, hvalue⟩ := h key hmem
    exact shortName_of_value? hvalue

theorem Admits.erase (h : f.Admits m id) (key : String) :
    ({ f with files := f.files.erase (fileName key) } : FileBackend).Admits
      { m with entries := m.entries.erase key } id where
  toShows := h.toShows.erase key
  idValid := h.idValid
  idShort := h.idShort
  draft := by
    have hdraft : (f.files.erase (fileName key)).get? (draftName id) =
        f.files.get? (draftName id) := by
      rw [SortedMap.get?_erase, if_neg (Ne.symm (fileName_ne_draftName key id))]
    rw [value?_congr hdraft]
    exact h.draft

end FileBackend

namespace ProjectStore

open FileBackend

section Lists

variable {b : FileBackend}

/-- The values of some keys can be had exactly if all of them can be looked at. -/
theorem valuesAt_ok_iff (keys : List String) :
    (∃ values, valuesAt b keys = .ok values) ↔ ∀ key ∈ keys, b.Usable key := by
  induction keys with
  | nil => simp [valuesAt]
  | cons key rest ih =>
    rw [List.forall_mem_cons, ← ih, ← get_ok_iff, valuesAt]
    cases Backend.get b key with
    | error e => simp [bind, Except.bind]
    | ok value =>
      cases valuesAt b rest with
      | error e => simp [bind, Except.bind]
      | ok others => simp [bind, Except.bind, pure, Except.pure]

theorem valuesAt_error {keys : List String} {e : BackendError} (h : valuesAt b keys = .error e) :
    ∃ key ∈ keys, Backend.get b key = .error e := by
  induction keys with
  | nil => cases h
  | cons key rest ih =>
    rw [valuesAt] at h
    cases hget : Backend.get b key with
    | error refusal =>
      rw [hget] at h
      obtain rfl := Except.error.inj h
      exact ⟨key, List.mem_cons_self .., hget⟩
    | ok value =>
      cases hrest : valuesAt b rest with
      | error refusal =>
        rw [hget, hrest] at h
        obtain rfl := Except.error.inj h
        obtain ⟨other, hmem, hother⟩ := ih hrest
        exact ⟨other, List.mem_cons_of_mem _ hmem, hother⟩
      | ok others =>
        rw [hget, hrest] at h
        cases h

/-- One key that is refused is enough, and the first of them gives the error. -/
theorem valuesAt_refused {keys : List String} (h : ∃ key ∈ keys, ¬ b.Usable key) :
    ∃ key ∈ keys, ∃ e, Backend.get b key = .error e ∧ valuesAt b keys = .error e := by
  cases hvalues : valuesAt b keys with
  | ok values =>
    obtain ⟨key, hkey, hrefused⟩ := h
    exact absurd ((valuesAt_ok_iff keys).1 ⟨values, hvalues⟩ key hkey) hrefused
  | error e =>
    obtain ⟨key, hkey, hget⟩ := valuesAt_error hvalues
    exact ⟨key, hkey, e, hget, rfl⟩

end Lists

section Refinement

variable {f : FileBackend} {m : MemoryBackend} {id : String}

theorem otherKeys_shows (h : f.Shows m) (id : String) : otherKeys f id = otherKeys m id := by
  have hkeys : Backend.keys f = Backend.keys m := h.keys_eq
  unfold otherKeys
  rw [hkeys]

theorem otherKeys_nameable (h : f.Shows m) {id key : String} (hkey : key ∈ otherKeys m id) :
    f.Nameable key := by
  have hmem : key ∈ m.entries.keys := (List.mem_filter.1 hkey).1
  exact ⟨h.valid key hmem, h.short key hmem⟩

theorem removeAll_admits (h : f.Admits m id) {keys : List String}
    (hkeys : ∀ key ∈ keys, f.Nameable key) :
    ∃ next, removeAll f keys = (.ok (), next) ∧
      next.Admits { m with entries := m.entries.without keys } id := by
  induction keys generalizing f m with
  | nil =>
    rw [SortedMap.without_nil]
    exact ⟨f, rfl, h⟩
  | cons key rest ih =>
    obtain ⟨⟨hvalid, hshort⟩, hrest⟩ := List.forall_mem_cons.1 hkeys
    obtain ⟨next, hnext, hadmits⟩ := ih (h.erase key) hrest
    refine ⟨next, ?_, ?_⟩
    · rw [removeAll, h.toShows.remove_eq hvalid hshort]
      exact hnext
    · rw [SortedMap.without_erase] at hadmits
      exact hadmits

/-- Placing a value goes alike on both sides. -/
theorem place_admits (h : f.Admits m id) (value : Blob) :
    (place f id value).1 = (place m id value).1 := by
  have hmemory (m : MemoryBackend) : Backend.set m id value = _ := m.set_eq id value
  unfold place
  rw [h.set_eq value, hmemory]
  cases hroom : checkQuota m.quota id (totalSize (m.entries.erase id)) value.size with
  | ok _ => rfl
  | error e =>
    -- over the quota both sides drop every other key and try once more
    obtain ⟨limit, -, rfl⟩ := checkQuota_error hroom
    have hothers : ∀ key ∈ otherKeys m id, f.Nameable key := fun key hkey =>
      otherKeys_nameable h.toShows hkey
    obtain ⟨alone, halone, hadmits⟩ := removeAll_admits h hothers
    simp only [Except.map, otherKeys_shows h.toShows, halone, removeAll_eq, hadmits.set_eq value,
      hmemory]
    cases hretry : checkQuota m.quota id
        (totalSize ((m.entries.without (otherKeys m id)).erase id)) value.size with
    | ok _ => rfl
    | error e =>
      obtain ⟨limit, -, rfl⟩ := checkQuota_error hretry
      rfl

theorem otherEntries_shows (h : f.Shows m) (p : Packing) (now : Instant) (id : String) :
    otherEntries p f now id = otherEntries p m now id := by
  have hsub : otherKeys m id ⊆ m.entries.keys := fun key hkey => (List.mem_filter.1 hkey).1
  unfold otherEntries
  rw [otherKeys_shows h, h.valuesAt_eq hsub]

/-- Making room goes alike on both sides. -/
theorem makeRoom_admits (h : f.Admits m id) (c : StoreConfig) (p : Packing)
    (now : Instant) (size : Nat) :
    ∃ next room, makeRoom c p f now id size = (.ok (), next) ∧
      makeRoom c p m now id size = (.ok (), room) ∧ next.Admits room id := by
  obtain ⟨n, -, -, hmake⟩ := makeRoom_take c p m now id size
  obtain ⟨count, htake, -, -⟩ := evictions_take c size (candidates p m now id)
  -- what is evicted are other keys that show in the directory
  have hgone : ∀ key ∈ ((candidates p m now id).take count).map StoredEntry.key,
      f.Nameable key := by
    intro key hkey
    obtain ⟨e, he, rfl⟩ := List.mem_map.1 hkey
    obtain ⟨x, hx, rfl⟩ := List.mem_map.1
      ((candidates_perm p m now id).mem_iff.1 (List.mem_of_mem_take he))
    have hother : x.1 ∈ otherKeys m id := by
      rw [otherKeys_eq]
      exact List.mem_map_of_mem hx
    exact otherKeys_nameable h.toShows hother
  obtain ⟨next, hnext, hadmits⟩ := removeAll_admits h hgone
  refine ⟨next, _, ?_, ?_, hadmits⟩
  · unfold makeRoom
    rw [otherEntries_shows h.toShows, otherEntries_eq]
    dsimp only
    rw [htake]
    exact hnext
  · unfold makeRoom
    rw [otherEntries_eq]
    dsimp only
    rw [htake]
    exact removeAll_eq m _

/-- A save goes alike on both sides. -/
theorem save_admits {s : ProjectStore FileBackend} {now : Instant} {r : ProjectRecord}
    (h : s.backend.Admits m (r.storageId now)) :
    (s.save now r).1 = (ProjectStore.save ⟨m, s.config, s.packing⟩ now r).1 := by
  have hget : Backend.get s.backend (r.storageId now) = Backend.get m (r.storageId now) :=
    h.toShows.get_eq h.idValid h.idShort
  -- both sides pack and unpack in one way
  have hencoded : (ProjectStore.mk m s.config s.packing).encoded = s.encoded := rfl
  have hdecoded : (ProjectStore.mk m s.config s.packing).decoded? = s.decoded? := rfl
  unfold save
  dsimp only
  rw [hget, hencoded, hdecoded]
  cases Backend.get m (r.storageId now) with
  | error e => rfl
  | ok before =>
    let stored := r.stamped (r.storageId now) now (before.bind (s.decoded? now))
    obtain ⟨next, room, hnext, hroom, hadmits⟩ :=
      makeRoom_admits h s.config s.packing now (s.encoded stored).size
    dsimp only
    rw [hnext, hroom]
    dsimp only
    rw [place_admits hadmits (s.encoded stored)]

end Refinement

section Directory

variable (s : ProjectStore FileBackend) (now : Instant)

/-- The readable records are listed if every key can be looked at. -/
theorem list_of_usable (h : ∀ key ∈ Backend.keys s.backend, s.backend.Usable key) :
    ∃ stored : List (String × Blob), Backend.keys s.backend = stored.map Prod.fst ∧
      (∀ e ∈ stored, s.backend.files.get? (fileName e.1) = some (.file e.2)) ∧
      s.list now = .ok ((stored.filterMap fun e => s.decoded? now e.2).mergeSort
        ProjectRecord.listedBefore) := by
  have hshows := shows_inMemory h
  refine ⟨s.backend.inMemory.entries.entries, hshows.keys_eq, fun e he => ?_, ?_⟩
  · have hkey : e.1 ≠ "" := ne_empty_of_validKey (hshows.valid e.1 (List.mem_map_of_mem he))
    rw [hshows.holds e.1 hkey, SortedMap.get?_eq_some_iff.2 he]
    rfl
  · unfold list
    rw [hshows.valuesAt_keys]

theorem list_of_refused (h : ∃ key ∈ Backend.keys s.backend, ¬ s.backend.Usable key) :
    ∃ key ∈ Backend.keys s.backend, ∃ e, Backend.get s.backend key = .error e ∧
      s.list now = .error (.backend e) := by
  obtain ⟨key, hkey, e, hget, hvalues⟩ := valuesAt_refused h
  refine ⟨key, hkey, e, hget, ?_⟩
  unfold list
  rw [hvalues]

/-- A save next to usable keys succeeds exactly if the record fits the quota alone. -/
theorem save_of_usable {r : ProjectRecord} (hid : s.backend.Usable (r.storageId now))
    (hdraft : s.backend.Readable (draftName (r.storageId now)))
    (h : ∀ key ∈ otherKeys s.backend (r.storageId now), s.backend.Usable key) :
    ∃ before, Backend.get s.backend (r.storageId now) = .ok before ∧
      let stored := r.stamped (r.storageId now) now (before.bind (s.decoded? now))
      (s.save now r).1 =
        if s.backend.quota.all ((s.encoded stored).size ≤ ·) then .ok stored
        else .error (.capacityExhausted stored.id (s.encoded stored).size) := by
  have husable : ∀ key ∈ Backend.keys s.backend, s.backend.Usable key := by
    intro key hkey
    by_cases hown : key = r.storageId now
    · rw [hown]
      exact hid
    · exact h key (List.mem_filter.2 ⟨hkey, by simpa using hown⟩)
  have hshows := shows_inMemory husable
  have hadmits : s.backend.Admits s.backend.inMemory (r.storageId now) := by
    obtain ⟨hvalid, value, hvalue⟩ := hid
    exact ⟨hshows, hvalid, shortName_of_value? hvalue, hdraft⟩
  refine ⟨_, hshows.get_eq hadmits.idValid hadmits.idShort, ?_⟩
  -- from here on the store is one in memory
  rw [save_admits hadmits]
  let t : ProjectStore MemoryBackend := ⟨s.backend.inMemory, s.config, s.packing⟩
  obtain ⟨gone, -, ⟨hfits, hsave, -⟩ | ⟨hfull, hsave⟩⟩ := t.save_spec now r
  · rw [hsave]
    exact (if_pos hfits).symm
  · rw [hsave]
    exact (if_neg (Bool.eq_false_iff.1 hfull)).symm

/-- A save next to a refused key fails and changes nothing. -/
theorem save_of_refused {r : ProjectRecord} (hid : s.backend.Usable (r.storageId now))
    (h : ∃ key ∈ otherKeys s.backend (r.storageId now), ¬ s.backend.Usable key) :
    ∃ key ∈ otherKeys s.backend (r.storageId now), ∃ e, Backend.get s.backend key = .error e ∧
      s.save now r = (.error (.backend e), s) := by
  obtain ⟨key, hkey, e, hget, hvalues⟩ := valuesAt_refused h
  refine ⟨key, hkey, e, hget, ?_⟩
  -- the own entry can be looked at, so the save gets as far as making room
  obtain ⟨before, hbefore⟩ := get_ok_iff.2 hid
  have hentries : otherEntries s.packing s.backend now (r.storageId now) = .error e := by
    unfold otherEntries
    rw [hvalues]
    rfl
  unfold save makeRoom
  dsimp only
  rw [hbefore]
  dsimp only
  rw [hentries]

/-- A store in a directory works as long as every key that shows there can be looked at: its lists
hold exactly the readable records, and a save fails only if the record does not fit the quota. One
other key makes every list fail, and every save under another id. A key can be looked at and removed
exactly if it is valid and stands for a file that can be read. -/
theorem directory_serves_iff :
    (∀ key ∈ Backend.keys s.backend,
      ((∃ value, Backend.get s.backend key = .ok value) ↔ s.backend.Usable key) ∧
      ((∃ removed, Backend.remove s.backend key = .ok removed) ↔ s.backend.Usable key)) ∧
    ((∀ key ∈ Backend.keys s.backend, s.backend.Usable key) →
      ∃ stored : List (String × Blob), Backend.keys s.backend = stored.map Prod.fst ∧
        (∀ e ∈ stored, s.backend.files.get? (fileName e.1) = some (.file e.2)) ∧
        let records := (stored.filterMap fun e => s.decoded? now e.2).mergeSort
          ProjectRecord.listedBefore
        s.list now = .ok records ∧
        (∀ query, s.search now query = .ok (records.filter fun r => r.isMatch query)) ∧
        ∃ stats, s.stats now = .ok stats ∧ stats.count = records.length) ∧
    ((∃ key ∈ Backend.keys s.backend, ¬ s.backend.Usable key) →
      ∃ key ∈ Backend.keys s.backend, ∃ e, Backend.get s.backend key = .error e ∧
        s.list now = .error (.backend e) ∧ (∀ query, s.search now query = .error (.backend e)) ∧
        s.stats now = .error (.backend e)) ∧
    ∀ r : ProjectRecord, s.backend.Usable (r.storageId now) →
      s.backend.Readable (draftName (r.storageId now)) →
      ((∀ key ∈ otherKeys s.backend (r.storageId now), s.backend.Usable key) →
        ∃ before, Backend.get s.backend (r.storageId now) = .ok before ∧
          let stored := r.stamped (r.storageId now) now (before.bind (s.decoded? now))
          (s.save now r).1 =
            if s.backend.quota.all ((s.encoded stored).size ≤ ·) then .ok stored
            else .error (.capacityExhausted stored.id (s.encoded stored).size)) ∧
      ((∃ key ∈ otherKeys s.backend (r.storageId now), ¬ s.backend.Usable key) →
        ∃ key ∈ otherKeys s.backend (r.storageId now), ∃ e,
          Backend.get s.backend key = .error e ∧ s.save now r = (.error (.backend e), s)) := by
  refine ⟨fun key _ => ⟨get_ok_iff, remove_ok_iff⟩, fun h => ?_, fun h => ?_, fun r hid hdraft =>
    ⟨s.save_of_usable now hid hdraft, s.save_of_refused now hid⟩⟩
  · obtain ⟨stored, hkeys, hfiles, hlist⟩ := s.list_of_usable now h
    refine ⟨stored, hkeys, hfiles, hlist, fun query => ?_, ?_⟩
    · unfold search
      rw [hlist]
      rfl
    · unfold stats
      rw [hlist]
      exact ⟨_, rfl, rfl⟩
  · obtain ⟨key, hkey, e, hget, hlist⟩ := s.list_of_refused now h
    refine ⟨key, hkey, e, hget, hlist, fun query => ?_, ?_⟩
    · unfold search
      rw [hlist]
      rfl
    · unfold stats
      rw [hlist]
      rfl

/-- A store in a directory with a note and a file of a key that holds no record. -/
def dustyShelf : ProjectStore FileBackend where
  backend := ofFiles (.ofList [("notes.txt", .text "hello"), ("old.bin", .text "garbage")]) none
  config := { compressionLevel := -50 }
  packing := Frame.packing

theorem directory_serves_iff_dusty :
    (∀ key ∈ Backend.keys dustyShelf.backend, dustyShelf.backend.Usable key) ∧
    dustyShelf.list ⟨0, 0⟩ = .ok [] ∧
    ∃ stored, (dustyShelf.save ⟨0, 0⟩ plain).1 = .ok stored := by
  have hkeys : Backend.keys dustyShelf.backend = ["old"] := by decide +kernel
  have husable : ∀ key ∈ Backend.keys dustyShelf.backend, dustyShelf.backend.Usable key := by
    rw [hkeys, List.forall_mem_singleton]
    exact ⟨by decide, some (.text "garbage"), rfl⟩
  have hid : dustyShelf.backend.Usable (plain.storageId ⟨0, 0⟩) := ⟨by decide, none, rfl⟩
  have hdraft : dustyShelf.backend.Readable (draftName (plain.storageId ⟨0, 0⟩)) := ⟨none, rfl⟩
  obtain ⟨-, hlists, -, hsaves⟩ := directory_serves_iff dustyShelf ⟨0, 0⟩
  obtain ⟨stored, hstored, hfiles, hlist, -⟩ := hlists husable
  obtain ⟨before, -, hsave⟩ := (hsaves plain hid hdraft).1 fun key hkey =>
    husable key (List.mem_filter.1 hkey).1
  refine ⟨husable, ?_, _, hsave.trans (if_pos rfl)⟩
  -- the only value there is no record
  rw [hkeys] at hstored
  obtain ⟨⟨key, value⟩, rfl, rfl⟩ := List.map_eq_singleton_iff.1 hstored.symm
  have hvalue : some (FileEntry.file (.text "garbage")) = some (.file value) :=
    hfiles _ (List.mem_singleton_self _)
  obtain rfl := FileEntry.file.inj (Option.some.inj hvalue)
  have hnone : [("old", Blob.text "garbage")].filterMap
      (fun e => dustyShelf.decoded? ⟨0, 0⟩ e.2) = [] := by decide +kernel
  rw [hlist, hnone, List.mergeSort_nil]

/-- A file of another program, whose name would make a key with a blank in it. -/
def strayShelf : ProjectStore FileBackend :=
  ⟨ofFiles (.ofList [("we ird.bin", .text "x")]) none, { compressionLevel := -50 }, Frame.packing⟩

theorem stray_breaks_store :
    Backend.keys strayShelf.backend = ["we ird"] ∧
      Backend.get strayShelf.backend "we ird" = .error (.invalidKey "we ird") ∧
      strayShelf.list ⟨0, 0⟩ = .error (.backend (.invalidKey "we ird")) ∧
      (strayShelf.save ⟨0, 0⟩ plain).1 = .error (.backend (.invalidKey "we ird")) :=
  ⟨rfl, rfl, rfl, rfl⟩

end Directory

end ProjectStore

end PageBuilder
