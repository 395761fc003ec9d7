import PageBuilder.Machine
import PageBuilder.Proofs.Store.Room
import PageBuilder.Proofs.Text.Cut

/-!
A backend in a directory against the one in memory. As long as nothing else writes to the directory,
the files of keys hold what the map in memory holds, so every call answers the same on both sides
and costs the same bytes; drafts and files of other names do not show.
-/

namespace PageBuilder

/-- A call of a backend. -/
inductive BackendCall where
  | get (key : String)
  | set (key : String) (value : Blob)
  | remove (key : String)
  | keys
  | usage

/-- What a call yields that is not refused. -/
inductive BackendAnswer where
  | value (value : Option Blob)
  | stored
  | removed (found : Bool)
  | keys (keys : List String)
  | usage (bytes : Nat)
deriving DecidableEq

namespace BackendCall

/-- The key that a call is about. -/
def key? : BackendCall → Option String
  | .get key | .set key _ | .remove key => some key
  | .keys | .usage => none

/-- The answer to a call and the backend after it. -/
def run {β : Type} [Backend β] (b : β) : BackendCall → Except BackendError BackendAnswer × β
  | .get key => ((Backend.get b key).map .value, b)
  | .set key value =>
    match Backend.set b key value with
    | .ok next => (.ok .stored, next)
    | .error e => (.error e, b)
  | .remove key =>
    match Backend.remove b key with
    | .ok (found, next) => (.ok (.removed found), next)
    | .error e => (.error e, b)
  | .keys => (.ok (.keys (Backend.keys b)), b)
  | .usage => (.ok (.usage (Backend.usage b)), b)

end BackendCall

theorem checkQuota_error {quota : Option Nat} {key : String} {usage needed : Nat}
    {e : BackendError} (h : checkQuota quota key usage needed = .error e) :
    ∃ limit ∈ quota, e = .quotaExceeded key needed (limit - usage) := by
  cases quota with
  | none => cases h
  | some limit =>
    simp only [checkQuota] at h
    split at h
    · exact ⟨limit, rfl, (Except.error.inj h).symm⟩
    · cases h

namespace MemoryBackend

variable (b : MemoryBackend)

/-- The value of a key has to fit the quota next to the values of all other keys. -/
theorem set_eq (key : String) (value : Blob) :
    b.set key value = (checkQuota b.quota key (totalSize (b.entries.erase key)) value.size).map
      fun _ => { b with entries := b.entries.insert key value } := by
  have hothers : totalSize b.entries - sizeAt b.entries key = totalSize (b.entries.erase key) := by
    have := totalSize_split b.entries key
    omega
  unfold set
  rw [hothers]
  cases checkQuota b.quota key (totalSize (b.entries.erase key)) value.size <;> rfl

/-- The values fit the quota. -/
def Within : Prop := ∀ limit ∈ b.quota, totalSize b.entries ≤ limit

variable {b}

theorem Within.run (h : b.Within) (c : BackendCall) :
    (c.run b).2.Within ∧ (c.run b).2.quota = b.quota := by
  cases c with
  | get key => exact ⟨h, rfl⟩
  | set key value =>
    have hset : Backend.set b key value = b.set key value := rfl
    rw [BackendCall.run, hset]
    rcases b.set_cases key value with ⟨hfits, hok⟩ | ⟨-, available, herror⟩
    · rw [hok]
      refine ⟨fun limit hlimit => ?_, rfl⟩
      rw [show b.quota = some limit from hlimit] at hfits
      have hroom := of_decide_eq_true hfits
      rw [totalSize_insert]
      omega
    · rw [herror]
      exact ⟨h, rfl⟩
  | remove key =>
    refine ⟨fun limit hlimit => ?_, rfl⟩
    have hless : totalSize (b.entries.erase key) ≤ totalSize b.entries := by
      rw [totalSize_split b.entries key]
      exact Nat.le_add_left ..
    exact Nat.le_trans hless (h limit hlimit)
  | keys => exact ⟨h, rfl⟩
  | usage => exact ⟨h, rfl⟩

theorem within_after_calls (quota : Option Nat) (calls : List BackendCall) :
    (runMachine BackendCall.run (new quota) calls).2.Within ∧
      (runMachine BackendCall.run (new quota) calls).2.quota = quota := by
  have hempty : (new quota).Within := fun limit _ => Nat.zero_le limit
  apply runMachine_invariant BackendCall.run
    (P := fun b : MemoryBackend => b.Within ∧ b.quota = quota) _ _ calls ⟨hempty, rfl⟩
  intro b c hb
  obtain ⟨hnext, hsame⟩ := hb.1.run c
  exact ⟨hnext, hsame.trans hb.2⟩

end MemoryBackend

namespace FileBackend

section Names

theorem fileName_toList (key : String) : (fileName key).toList = key.toList ++ ".bin".toList :=
  String.toList_append

theorem fileName_inj {key other : String} : fileName key = fileName other ↔ key = other := by
  rw [← String.toList_inj, fileName_toList, fileName_toList, List.append_cancel_right_eq,
    String.toList_inj]

/-- A draft never has the name of a key's file, whatever the two keys are. -/
theorem fileName_ne_draftName (key other : String) : fileName key ≠ draftName other := by
  intro h
  have hlast : (fileName key).toList.getLast? = (draftName other).toList.getLast? := by rw [h]
  have hends : ".bin".toList.getLast? = some 'n' ∧ ".tmp".toList.getLast? = some 'p' := by decide
  rw [fileName_toList, draftName, String.toList_append, List.getLast?_append, List.getLast?_append,
    hends.1, hends.2, Option.some_or, Option.some_or] at hlast
  exact absurd hlast (by decide)

/-- A name is the file of the key that it is made of, and of no other one. -/
theorem keyOfFile?_eq_some_iff {name key : String} :
    keyOfFile? name = some key ↔ key ≠ "" ∧ name = fileName key := by
  have hempty (cs : List Char) : cs.isEmpty = true ↔ String.ofList cs = "" := by
    rw [List.isEmpty_iff, ← String.toList_inj, String.toList_ofList, String.toList_empty]
  unfold keyOfFile?
  constructor
  · intro h
    split at h
    · next front hfront =>
      split at h
      · cases h
      · next hne =>
        obtain rfl := Option.some.inj h
        refine ⟨fun hkey => hne ((hempty front).2 hkey), ?_⟩
        have hname := beforeBack?_eq_some_iff.1 hfront
        rw [← String.toList_ofList (l := front), ← fileName_toList, String.toList_inj] at hname
        exact hname
    · cases h
  · rintro ⟨hkey, rfl⟩
    have hfront : beforeBack? ".bin".toList (fileName key).toList = some key.toList :=
      beforeBack?_eq_some_iff.2 (fileName_toList key)
    have hne : ¬ key.toList.isEmpty = true := by
      rw [hempty, String.ofList_toList]
      exact hkey
    rw [hfront]
    dsimp only
    rw [if_neg hne, String.ofList_toList]

theorem ne_empty_of_validKey {key : String} (h : validKey key = true) : key ≠ "" := by
  rintro rfl
  exact absurd h (by decide)

end Names

section Entries

variable (b : FileBackend)

/-- The keys of a directory are those whose files are in it. -/
theorem get?_entries {key : String} (hkey : key ≠ "") :
    b.entries.get? key = b.files.get? (fileName key) := by
  have hdistinct : DistinctKeys
      (b.files.entries.filterMap fun f => (keyOfFile? f.1).map fun key => (key, f.2)) := by
    unfold DistinctKeys
    have hkeys : (b.files.entries.filterMap fun f =>
        (keyOfFile? f.1).map fun key => (key, f.2)).map Prod.fst =
          b.files.keys.filterMap keyOfFile? := by
      rw [List.map_filterMap, SortedMap.keys, List.filterMap_map]
      congr 1
      funext f
      simp [Option.map_map, Function.comp_def]
    rw [hkeys]
    refine b.files.keys_nodup.filterMap fun name other key hname hother => ?_
    rw [Option.mem_def, keyOfFile?_eq_some_iff] at hname hother
    rw [hname.2, hother.2]
  apply Option.ext
  intro entry
  rw [entries, SortedMap.get?_ofList hdistinct, SortedMap.get?_eq_some_iff, List.mem_filterMap]
  constructor
  · rintro ⟨⟨name, found⟩, hmem, hfound⟩
    obtain ⟨k, hk, heq⟩ := Option.map_eq_some_iff.1 hfound
    obtain ⟨rfl, rfl⟩ := Prod.mk.inj heq
    obtain ⟨-, rfl⟩ := keyOfFile?_eq_some_iff.1 hk
    exact hmem
  · intro hmem
    refine ⟨_, hmem, ?_⟩
    rw [keyOfFile?_eq_some_iff.2 ⟨hkey, rfl⟩]
    rfl

theorem get?_entries_empty : b.entries.get? "" = none := by
  apply SortedMap.get?_eq_none
  intro hmem
  obtain ⟨e, he, hkey⟩ := List.mem_map.1 hmem
  obtain ⟨f, -, hf⟩ := List.mem_filterMap.1 (SortedMap.mem_of_mem_ofList he)
  obtain ⟨key, hname, rfl⟩ := Option.map_eq_some_iff.1 hf
  exact (keyOfFile?_eq_some_iff.1 hname).1 hkey

end Entries

section Lookups

variable {b : FileBackend} {key : String}

/-- A name is short enough for the files of the directory. -/
def ShortName (b : FileBackend) (name : String) : Prop :=
  (b.nameLimit.any fun limit => limit < name.utf8ByteSize) = false

theorem shortName_of_value? {name : String} {found : Option Blob} (h : b.value? name = .ok found) :
    b.ShortName name := by
  unfold value? at h
  split at h
  · cases h
  · next hshort => exact Bool.eq_false_iff.2 hshort

/-- A short name without an entry, or with the one of a file, can be read. -/
theorem value?_of_shortName {name : String} {value : Option Blob} (h : b.ShortName name)
    (hfile : b.files.get? name = value.map .file) : b.value? name = .ok value := by
  unfold value?
  rw [show (b.nameLimit.any fun limit => limit < name.utf8ByteSize) = false from h,
    if_neg Bool.false_ne_true, hfile]
  cases value <;> rfl

/-- What a name holds depends on the name's own entry only. -/
theorem value?_congr {files : SortedMap FileEntry} {name : String}
    (h : files.get? name = b.files.get? name) :
    ({ b with files := files } : FileBackend).value? name = b.value? name := by
  unfold value?
  rw [h]

theorem get_eq (b : FileBackend) (key : String) :
    b.get key =
      if validKey key then b.value? (fileName key) else .error (.invalidKey key) := by
  unfold get fileName?
  split <;> rfl

theorem remove_eq (b : FileBackend) (key : String) :
    b.remove key =
      if validKey key then (b.value? (fileName key)).map fun value =>
        (value.isSome, { b with files := b.files.erase (fileName key) })
      else .error (.invalidKey key) := by
  unfold remove fileName?
  split
  · change (do return ((← b.value? (fileName key)).isSome, _)) = _
    cases b.value? (fileName key) <;> rfl
  · rfl

end Lookups

section Shows

/-- Every key in a directory can be looked at, and its file holds what the key has in memory. -/
structure Shows (f : FileBackend) (m : MemoryBackend) : Prop where
  quota : f.quota = m.quota
  holds : ∀ key, key ≠ "" → f.files.get? (fileName key) = (m.entries.get? key).map .file
  valid : ∀ key ∈ m.entries.keys, validKey key = true
  short : ∀ key ∈ m.entries.keys, f.ShortName (fileName key)

/-- Moreover a key can be set: it is valid, and neither its file nor its draft is in the way. -/
structure Admits (f : FileBackend) (m : MemoryBackend) (id : String) : Prop extends f.Shows m where
  idValid : validKey id = true
  idShort : f.ShortName (fileName id)
  draft : ∃ value, f.value? (draftName id) = .ok value

variable {f : FileBackend} {m : MemoryBackend} {key id : String}

namespace Shows

theorem entries_eq (h : f.Shows m) : f.entries = m.entries.mapValues fun _ => .file := by
  apply SortedMap.ext_get?
  intro key
  rw [SortedMap.get?_mapValues]
  by_cases hkey : key = ""
  · rw [hkey, get?_entries_empty, SortedMap.get?_eq_none fun hmem =>
      ne_empty_of_validKey (h.valid "" hmem) rfl]
    rfl
  · rw [get?_entries f hkey, h.holds key hkey]

theorem keys_eq (h : f.Shows m) : f.entries.keys = m.entries.keys := by
  rw [h.entries_eq, SortedMap.keys, SortedMap.mapValues, List.map_map]
  rfl

theorem usage_eq (h : f.Shows m) : f.usage = totalSize m.entries := by
  rw [usage, h.entries_eq, SortedMap.values, SortedMap.mapValues, List.map_map, List.map_map,
    totalSize_eq]
  rfl

theorem value?_eq (h : f.Shows m) (hkey : validKey key = true)
    (hshort : f.ShortName (fileName key)) :
    f.value? (fileName key) = .ok (m.entries.get? key) :=
  value?_of_shortName hshort (h.holds key (ne_empty_of_validKey hkey))

/-- The bytes of a key's file are those of its value. -/
theorem replaced_eq (h : f.Shows m) (hkey : key ≠ "") :
    ((f.files.get? (fileName key)).map FileEntry.size).getD 0 = sizeAt m.entries key := by
  rw [h.holds key hkey, sizeAt, Option.map_map]
  rfl

theorem get_eq (h : f.Shows m) (hkey : validKey key = true) (hshort : f.ShortName (fileName key)) :
    Backend.get f key = Backend.get m key := by
  change f.get key = .ok (m.entries.get? key)
  rw [FileBackend.get_eq, if_pos hkey, h.value?_eq hkey hshort]

theorem remove_eq (h : f.Shows m) (hkey : validKey key = true)
    (hshort : f.ShortName (fileName key)) :
    Backend.remove f key = .ok (m.entries.contains key,
      { f with files := f.files.erase (fileName key) }) := by
  change f.remove key = _
  rw [FileBackend.remove_eq, if_pos hkey, h.value?_eq hkey hshort]
  rfl

/-- Removing a key's file removes the key. -/
theorem erase (h : f.Shows m) (key : String) :
    ({ f with files := f.files.erase (fileName key) } : FileBackend).Shows
      { m with entries := m.entries.erase key } where
  quota := h.quota
  holds other hother := by
    simp only [SortedMap.get?_erase, fileName_inj, h.holds other hother]
    split <;> rfl
  valid other hmem := h.valid other (SortedMap.mem_keys_erase.1 hmem).2
  short other hmem := h.short other (SortedMap.mem_keys_erase.1 hmem).2

/-- The keys of one side have the same values on the other. -/
theorem valuesAt_eq (h : f.Shows m) {keys : List String} (hkeys : keys ⊆ m.entries.keys) :
    ProjectStore.valuesAt f keys = ProjectStore.valuesAt m keys := by
  induction keys with
  | nil => rfl
  | cons key rest ih =>
    obtain ⟨hkey, hrest⟩ := List.cons_subset.1 hkeys
    have hget := h.get_eq (h.valid key hkey) (h.short key hkey)
    rw [ProjectStore.valuesAt, ProjectStore.valuesAt, hget, ih hrest]

theorem valuesAt_keys (h : f.Shows m) :
    ProjectStore.valuesAt f (Backend.keys f) = .ok m.entries.entries := by
  have hkeys : Backend.keys f = m.entries.keys := h.keys_eq
  rw [hkeys, h.valuesAt_eq (List.Subset.refl _)]
  exact ProjectStore.valuesAt_entries m _ fun e he => he

end Shows

namespace Admits

theorem set_eq (h : f.Admits m id) (value : Blob) :
    Backend.set f id value =
      (checkQuota m.quota id (totalSize (m.entries.erase id)) value.size).map fun _ =>
        { f with
          files := (f.files.erase (draftName id)).insert (fileName id) (.file value) } := by
  have hothers : f.usage - ((f.files.get? (fileName id)).map FileEntry.size).getD 0 =
      totalSize (m.entries.erase id) := by
    have := totalSize_split m.entries id
    rw [h.usage_eq, h.replaced_eq (ne_empty_of_validKey h.idValid)]
    omega
  obtain ⟨draft, hdraft⟩ := h.draft
  change f.set id value = _
  unfold set fileName?
  simp only [h.idValid, if_true, bind, Except.bind, hothers, h.quota, hdraft,
    h.value?_eq h.idValid h.idShort]
  cases checkQuota m.quota id (totalSize (m.entries.erase id)) value.size <;> rfl

/-- Writing a value to a key's file, over a draft, sets the key. -/
theorem insert (h : f.Admits m id) (value : Blob) :
    ({ f with files := (f.files.erase (draftName id)).insert (fileName id) (.file value) }
      : FileBackend).Shows { m with entries := m.entries.insert id value } where
  quota := h.quota
  holds other hother := by
    simp only [SortedMap.get?_insert, SortedMap.get?_erase, fileName_inj,
      fileName_ne_draftName, if_false, h.holds other hother]
    split <;> rfl
  valid other hmem := by
    rcases SortedMap.mem_keys_insert hmem with rfl | hmem
    · exact h.idValid
    · exact h.valid other hmem
  short other hmem := by
    rcases SortedMap.mem_keys_insert hmem with rfl | hmem
    · exact h.idShort
    · exact h.short other hmem

end Admits

end Shows

section Mirrors

/-- The file of every key in a directory holds what the key has in memory, and nothing in the
directory gets in the way of a file. -/
structure Mirrors (f : FileBackend) (m : MemoryBackend) : Prop where
  quota : f.quota = m.quota
  anyName : f.nameLimit = none
  filesOnly : ∀ name, f.files.get? name ≠ some .directory
  holds : ∀ key, key ≠ "" → f.files.get? (fileName key) = (m.entries.get? key).map .file
  keys : ∀ key ∈ m.entries.keys, validKey key = true

variable {f : FileBackend} {m : MemoryBackend}

namespace Mirrors

theorem shortName (h : f.Mirrors m) (name : String) : f.ShortName name := by
  unfold ShortName
  rw [h.anyName, Option.any_none]

theorem shows (h : f.Mirrors m) : f.Shows m :=
  ⟨h.quota, h.holds, h.keys, fun key _ => h.shortName (fileName key)⟩

/-- Every valid key can be set. -/
theorem admits (h : f.Mirrors m) {key : String} (hkey : validKey key = true) : f.Admits m key := by
  refine ⟨h.shows, hkey, h.shortName _, ?_⟩
  rcases hfile : f.files.get? (draftName key) with - | ⟨value | -⟩
  · exact ⟨none, value?_of_shortName (h.shortName _) hfile⟩
  · exact ⟨some value, value?_of_shortName (h.shortName _) hfile⟩
  · exact absurd hfile (h.filesOnly _)

/-- Writing a value to a key's file, over a draft, sets the key. -/
theorem insert (h : f.Mirrors m) {key : String} (hkey : validKey key = true) (value : Blob) :
    ({ f with files := (f.files.erase (draftName key)).insert (fileName key) (.file value) }
      : FileBackend).Mirrors { m with entries := m.entries.insert key value } where
  quota := h.quota
  anyName := h.anyName
  filesOnly name := by
    simp only [SortedMap.get?_insert, SortedMap.get?_erase]
    split
    · simp
    split
    · simp
    · exact h.filesOnly name
  holds := ((h.admits hkey).insert value).holds
  keys := ((h.admits hkey).insert value).valid

/-- Removing a key's file removes the key. -/
theorem erase (h : f.Mirrors m) (key : String) :
    ({ f with files := f.files.erase (fileName key) } : FileBackend).Mirrors
      { m with entries := m.entries.erase key } where
  quota := h.quota
  anyName := h.anyName
  filesOnly name := by
    rw [SortedMap.get?_erase]
    split
    · simp
    · exact h.filesOnly name
  holds := (h.shows.erase key).holds
  keys := (h.shows.erase key).valid

/-- A call is answered alike on both sides, and the directory goes on holding what the map holds. -/
theorem run (h : f.Mirrors m) (c : BackendCall) (hc : ∀ key ∈ c.key?, validKey key = true) :
    (c.run f).1 = (c.run m).1 ∧ (c.run f).2.Mirrors (c.run m).2 := by
  cases c with
  | get key =>
    have hkey := hc key rfl
    exact ⟨congrArg (Except.map _) (h.shows.get_eq hkey (h.shortName _)), h⟩
  | set key value =>
    have hkey := hc key rfl
    have hfile := (h.admits hkey).set_eq value
    have hmemory : Backend.set m key value = _ := m.set_eq key value
    rw [BackendCall.run, BackendCall.run, hfile, hmemory]
    cases checkQuota m.quota key (totalSize (m.entries.erase key)) value.size with
    | error e => exact ⟨rfl, h⟩
    | ok _ => exact ⟨rfl, h.insert hkey value⟩
  | remove key =>
    have hkey := hc key rfl
    have hremove := h.shows.remove_eq hkey (h.shortName _)
    rw [BackendCall.run, hremove]
    exact ⟨rfl, h.erase key⟩
  | keys => exact ⟨congrArg (Except.ok ∘ BackendAnswer.keys) h.shows.keys_eq, h⟩
  | usage => exact ⟨congrArg (Except.ok ∘ BackendAnswer.usage) h.shows.usage_eq, h⟩

/-- A value that is refused does not fit the quota, and is refused on both sides. -/
theorem set_refused (h : f.Mirrors m) {key : String} (hkey : validKey key = true) {value : Blob}
    {e : BackendError} (he : ((BackendCall.set key value).run m).1 = .error e) :
    (∃ limit ∈ m.quota,
      e = .quotaExceeded key value.size (limit - totalSize (m.entries.erase key))) ∧
    (BackendCall.set key value).run m = (.error e, m) ∧
    (BackendCall.set key value).run f = (.error e, f) := by
  have hfile := (h.admits hkey).set_eq value
  have hmemory : Backend.set m key value = _ := m.set_eq key value
  rw [BackendCall.run, hmemory] at he
  rw [BackendCall.run, BackendCall.run, hfile, hmemory]
  cases hroom : checkQuota m.quota key (totalSize (m.entries.erase key)) value.size with
  | error refusal =>
    rw [hroom] at he
    obtain rfl : refusal = e := Except.error.inj he
    exact ⟨checkQuota_error hroom, rfl, rfl⟩
  | ok _ =>
    rw [hroom] at he
    cases he

end Mirrors

/-- The backend over a directory in which there are only files. -/
def ofFiles (contents : SortedMap Blob) (quota : Option Nat) : FileBackend :=
  ⟨contents.mapValues fun _ => .file, quota, none⟩

/-- A directory without the file of any key mirrors an empty memory. -/
theorem ofFiles_mirrors {contents : SortedMap Blob}
    (hfresh : ∀ name ∈ contents.keys, keyOfFile? name = none) (quota : Option Nat) :
    (ofFiles contents quota).Mirrors (.new quota) where
  quota := rfl
  anyName := rfl
  filesOnly name := by
    rw [ofFiles, SortedMap.get?_mapValues]
    cases contents.get? name <;> simp
  holds key hkey := by
    have hnone : contents.get? (fileName key) = none := by
      apply SortedMap.get?_eq_none
      intro hmem
      have hfile := keyOfFile?_eq_some_iff.2 ⟨hkey, rfl⟩
      rw [hfresh _ hmem] at hfile
      cases hfile
    rw [ofFiles, SortedMap.get?_mapValues, hnone]
    rfl
  keys key hmem := by cases hmem

end Mirrors

/-- From a directory without the file of any key on, calls with valid keys are answered as they are
from an empty memory on. Both sides then list the same keys in the same order, with the same values,
whose bytes are the usage and within the quota. Keys and drafts have files of their own; the bytes
that setting a key gives back are part of the usage, and a value without room is refused on both
sides with the same numbers and nothing changed. -/
theorem directory_mirrors_memory (contents : SortedMap Blob) (quota : Option Nat)
    (calls : List BackendCall) (hfresh : ∀ name ∈ contents.keys, keyOfFile? name = none)
    (hvalid : ∀ c ∈ calls, ∀ key ∈ c.key?, validKey key = true) :
    let directory := runMachine BackendCall.run (ofFiles contents quota) calls
    let memory := runMachine BackendCall.run (MemoryBackend.new quota) calls
    directory.1 = memory.1 ∧
    (∃ stored,
      Backend.keys directory.2 = stored.map Prod.fst ∧
      Backend.keys memory.2 = stored.map Prod.fst ∧
      ProjectStore.valuesAt directory.2 (stored.map Prod.fst) = .ok stored ∧
      ProjectStore.valuesAt memory.2 (stored.map Prod.fst) = .ok stored ∧
      Backend.usage directory.2 = total (stored.map fun e => e.2.size) ∧
      Backend.usage memory.2 = total (stored.map fun e => e.2.size) ∧
      ∀ limit ∈ quota, total (stored.map fun e => e.2.size) ≤ limit) ∧
    (∀ key other, (key ≠ other → fileName key ≠ fileName other) ∧ fileName key ≠ draftName other) ∧
    ∀ key value, validKey key = true →
      directory.2.files.get? (fileName key) = (memory.2.entries.get? key).map .file ∧
      sizeAt memory.2.entries key ≤ Backend.usage memory.2 ∧
      ((directory.2.files.get? (fileName key)).map FileEntry.size).getD 0 ≤
        Backend.usage directory.2 ∧
      ∀ e, ((BackendCall.set key value).run memory.2).1 = .error e →
        (∃ limit ∈ quota, e =
          .quotaExceeded key value.size (limit - totalSize (memory.2.entries.erase key))) ∧
        (BackendCall.set key value).run memory.2 = (.error e, memory.2) ∧
        (BackendCall.set key value).run directory.2 = (.error e, directory.2) := by
  intro directory memory
  obtain ⟨hanswers, h⟩ : directory.1 = memory.1 ∧ directory.2.Mirrors memory.2 :=
    runMachine_lockstep BackendCall.run (R := Mirrors)
      (fun f m c hc hmirrors => hmirrors.run c (hvalid c hc)) (ofFiles_mirrors hfresh quota)
  obtain ⟨hwithin, hquota⟩ : memory.2.Within ∧ memory.2.quota = quota :=
    MemoryBackend.within_after_calls quota calls
  have husage : Backend.usage directory.2 = totalSize memory.2.entries := h.shows.usage_eq
  have hkeys : Backend.keys directory.2 = memory.2.entries.keys := h.shows.keys_eq
  have hvalues := h.shows.valuesAt_keys
  rw [hkeys] at hvalues
  refine ⟨hanswers, ⟨memory.2.entries.entries, hkeys, rfl, hvalues, ?_, ?_, ?_, ?_⟩, ?_, ?_⟩
  · exact ProjectStore.valuesAt_entries memory.2 _ fun e he => he
  · rw [husage, totalSize_eq]
  · exact totalSize_eq memory.2.entries
  · intro limit hlimit
    rw [← totalSize_eq]
    exact hwithin limit (hquota ▸ hlimit)
  · intro key other
    exact ⟨fun hne heq => hne (fileName_inj.1 heq), fileName_ne_draftName key other⟩
  · intro key value hkey
    have hne := ne_empty_of_validKey hkey
    have hpart : sizeAt memory.2.entries key ≤ totalSize memory.2.entries := by
      rw [totalSize_split memory.2.entries key]
      exact Nat.le_add_right ..
    refine ⟨h.holds key hne, hpart, ?_, fun e he => ?_⟩
    · rw [h.shows.replaced_eq hne, husage]
      exact hpart
    · have hrefused := h.set_refused hkey he
      rwa [hquota] at hrefused

/-- A draft was left behind, and a key ends like the name of a file. -/
theorem directory_mirrors_memory_crowded :
    let contents := SortedMap.ofList [("a.tmp", Blob.text "left"), (".bin", .text "hidden")]
    let calls := [.set "a" (.text "12345678"), .set "a.bin" (.text "1"),
      .set "a" (.text "1234567890"), .set "a" (.text "123456789"), .usage, .keys, .remove "a",
      .get "a.bin"]
    (∀ name ∈ contents.keys, keyOfFile? name = none) ∧
    (∀ c ∈ calls, ∀ key ∈ c.key?, validKey key = true) ∧
    (runMachine BackendCall.run (ofFiles contents (some 10)) calls).1 =
      [.ok .stored, .ok .stored, .error (.quotaExceeded "a" 10 9), .ok .stored, .ok (.usage 10),
        .ok (.keys ["a", "a.bin"]), .ok (.removed true), .ok (.value (some (.text "1")))] := by
  intro contents calls
  have hfresh : ∀ name ∈ contents.keys, keyOfFile? name = none := by decide +kernel
  have hvalid : ∀ c ∈ calls, ∀ key ∈ c.key?, validKey key = true := by decide +kernel
  refine ⟨hfresh, hvalid, ?_⟩
  rw [(directory_mirrors_memory contents (some 10) calls hfresh hvalid).1]
  rfl

end FileBackend

end PageBuilder
