import PageBuilder.Proofs.Store.Directory

/-!
What every backend keeps to: what is set or removed under a key is seen under this key and under no
other one. A save on such a backend drops entries of other keys and then sets its own, or fails and
leaves its own as it was. The backend in memory keeps to it, and so does the one in a directory,
whatever else stands there.
-/

namespace PageBuilder

/-- What is set or removed under a key is seen under this key and under no other one. -/
class LawfulBackend (β : Type) [Backend β] : Prop where
  get_set : ∀ {b next : β} {key : String} {value : Blob},
    Backend.set b key value = .ok next → Backend.get next key = .ok (some value)
  get_set_ne : ∀ {b next : β} {key other : String} {value : Blob},
    Backend.set b key value = .ok next → other ≠ key →
      Backend.get next other = Backend.get b other
  get_remove : ∀ {b next : β} {key : String} {found : Bool},
    Backend.remove b key = .ok (found, next) → Backend.get next key = .ok none
  get_remove_ne : ∀ {b next : β} {key other : String} {found : Bool},
    Backend.remove b key = .ok (found, next) → other ≠ key →
      Backend.get next other = Backend.get b other

section Memory

theorem MemoryBackend.set_ok {b next : MemoryBackend} {key : String} {value : Blob}
    (h : b.set key value = .ok next) : next = { b with entries := b.entries.insert key value } := by
  rcases b.set_cases key value with ⟨-, hok⟩ | ⟨-, available, herror⟩
  · rw [hok] at h
    exact (Except.ok.inj h).symm
  · rw [herror] at h
    cases h

instance : LawfulBackend MemoryBackend where
  get_set h := by
    rw [MemoryBackend.set_ok h]
    exact congrArg Except.ok (SortedMap.get?_insert_self ..)
  get_set_ne h hne := by
    rw [MemoryBackend.set_ok h]
    exact congrArg Except.ok ((SortedMap.get?_insert ..).trans (if_neg hne))
  get_remove h := by
    obtain ⟨-, rfl⟩ := Prod.mk.inj (Except.ok.inj h)
    exact congrArg Except.ok ((SortedMap.get?_erase ..).trans (if_pos rfl))
  get_remove_ne h hne := by
    obtain ⟨-, rfl⟩ := Prod.mk.inj (Except.ok.inj h)
    exact congrArg Except.ok ((SortedMap.get?_erase ..).trans (if_neg hne))

end Memory

namespace FileBackend

variable {b next : FileBackend} {key other : String} {value : Blob}

/-- A value is set in the key's file, over a draft, unless the key, the quota or one of the two
files is in the way. -/
theorem set_ok (h : b.set key value = .ok next) :
    validKey key = true ∧ b.ShortName (fileName key) ∧
      next = { b with
        files := (b.files.erase (draftName key)).insert (fileName key) (.file value) } := by
  unfold set at h
  -- the name, the quota, the draft, and last the file that it takes the place of
  obtain ⟨name, hname, h⟩ := bind_ok h
  obtain ⟨-, -, h⟩ := bind_ok h
  obtain ⟨-, -, h⟩ := bind_ok h
  obtain ⟨found, hfound, h⟩ := bind_ok h
  unfold fileName? at hname
  split at hname
  · next hkey =>
    obtain rfl := Except.ok.inj hname
    exact ⟨hkey, shortName_of_value? hfound, (Except.ok.inj h).symm⟩
  · cases hname

theorem remove_ok {found : Bool} (h : b.remove key = .ok (found, next)) :
    validKey key = true ∧ b.ShortName (fileName key) ∧
      next = { b with files := b.files.erase (fileName key) } := by
  rw [remove_eq] at h
  split at h
  · next hkey =>
    cases hvalue : b.value? (fileName key) with
    | error e =>
      rw [hvalue] at h
      cases h
    | ok value =>
      rw [hvalue] at h
      exact ⟨hkey, shortName_of_value? hvalue, (Prod.mk.inj (Except.ok.inj h)).2.symm⟩
  · cases h

/-- A key whose file has the same entry is read alike. -/
theorem get_congr {files : SortedMap FileEntry}
    (h : files.get? (fileName key) = b.files.get? (fileName key)) :
    ({ b with files := files } : FileBackend).get key = b.get key := by
  rw [get_eq, get_eq, value?_congr h]

end FileBackend

instance : LawfulBackend FileBackend where
  get_set {b next key value} h := by
    obtain ⟨hkey, hshort, rfl⟩ := FileBackend.set_ok h
    have hfile : ((b.files.erase (FileBackend.draftName key)).insert (FileBackend.fileName key)
        (.file value)).get? (FileBackend.fileName key) = (some value).map .file :=
      SortedMap.get?_insert_self ..
    refine (FileBackend.get_eq _ key).trans ((if_pos hkey).trans ?_)
    exact FileBackend.value?_of_shortName hshort hfile
  get_set_ne h hne := by
    obtain ⟨-, -, rfl⟩ := FileBackend.set_ok h
    -- neither the key's own file nor its draft is the file of another key
    refine FileBackend.get_congr ?_
    rw [SortedMap.get?_insert, if_neg (fun heq => hne (FileBackend.fileName_inj.1 heq)),
      SortedMap.get?_erase, if_neg (FileBackend.fileName_ne_draftName _ _)]
  get_remove {b next key found} h := by
    obtain ⟨hkey, hshort, rfl⟩ := FileBackend.remove_ok h
    have hfile : (b.files.erase (FileBackend.fileName key)).get? (FileBackend.fileName key) =
        (none : Option Blob).map .file := (SortedMap.get?_erase ..).trans (if_pos rfl)
    refine (FileBackend.get_eq _ key).trans ((if_pos hkey).trans ?_)
    exact FileBackend.value?_of_shortName hshort hfile
  get_remove_ne h hne := by
    obtain ⟨-, -, rfl⟩ := FileBackend.remove_ok h
    refine FileBackend.get_congr ?_
    rw [SortedMap.get?_erase, if_neg (fun heq => hne (FileBackend.fileName_inj.1 heq))]

/-- Some keys have lost their values, but not `id`. -/
def Drops {β : Type} [Backend β] (id : String) (b next : β) : Prop :=
  ∀ key, Backend.get next key = Backend.get b key ∨ key ≠ id ∧ Backend.get next key = .ok none

namespace Drops

variable {β : Type} [Backend β] {id : String} {b next last : β}

theorem refl (id : String) (b : β) : Drops id b b := fun _ => Or.inl rfl

theorem trans (h : Drops id b next) (hlast : Drops id next last) : Drops id b last := by
  intro key
  rcases hlast key with hsame | hgone
  · rw [hsame]
    exact h key
  · exact Or.inr hgone

end Drops

namespace ProjectStore

variable {β : Type} [Backend β]

theorem valuesAt_keys {b : β} {keys : List String} {values : List (String × Blob)}
    (h : valuesAt b keys = .ok values) : ∀ v ∈ values, v.1 ∈ keys := by
  induction keys generalizing values with
  | nil =>
    obtain rfl := Except.ok.inj h
    exact List.forall_mem_nil _
  | cons key rest ih =>
    unfold valuesAt at h
    obtain ⟨value, -, h⟩ := bind_ok h
    obtain ⟨others, hothers, h⟩ := bind_ok h
    have hrest : ∀ v ∈ others, v.1 ∈ key :: rest := fun v hv =>
      List.mem_cons_of_mem key (ih hothers v hv)
    obtain rfl := Except.ok.inj h
    cases value with
    | none => exact hrest
    | some x => exact List.forall_mem_cons.2 ⟨List.mem_cons_self .., hrest⟩

theorem otherKeys_ne {b : β} {id key : String} (h : key ∈ otherKeys b id) : key ≠ id := by
  simpa using (List.mem_filter.1 h).2

theorem otherEntries_ne {p : Packing} {b : β} {now : Instant} {id : String}
    {others : List StoredEntry} (h : otherEntries p b now id = .ok others) :
    ∀ e ∈ others, e.key ≠ id := by
  unfold otherEntries at h
  obtain ⟨values, hvalues, h⟩ := bind_ok h
  obtain rfl := Except.ok.inj h
  intro e he
  obtain ⟨v, hv, rfl⟩ := List.mem_map.1 ((List.mergeSort_perm _ _).mem_iff.1 he)
  exact otherKeys_ne (valuesAt_keys hvalues v hv)

variable [LawfulBackend β]

theorem removeAll_drops (b : β) {id : String} {keys : List String} (h : id ∉ keys) :
    Drops id b (removeAll b keys).2 := by
  induction keys generalizing b with
  | nil => exact .refl id b
  | cons key rest ih =>
    obtain ⟨hne, hrest⟩ := List.ne_and_not_mem_of_not_mem_cons h
    unfold removeAll
    split
    · next found next hremove =>
      refine Drops.trans (fun other => ?_) (ih next hrest)
      by_cases hother : other = key
      · rw [hother]
        exact Or.inr ⟨Ne.symm hne, LawfulBackend.get_remove hremove⟩
      · exact Or.inl (LawfulBackend.get_remove_ne hremove hother)
    · exact .refl id b

theorem makeRoom_drops (c : StoreConfig) (p : Packing) (b : β) (now : Instant) (id : String)
    (size : Nat) : Drops id b (makeRoom c p b now id size).2 := by
  unfold makeRoom
  split
  · exact .refl id b
  · next others hothers =>
    apply removeAll_drops
    intro hmem
    obtain ⟨e, he, hkey⟩ := List.mem_map.1 hmem
    obtain ⟨n, htake, -, -⟩ := evictions_take c size others
    rw [htake] at he
    exact otherEntries_ne hothers e (List.mem_of_mem_take he) hkey

/-- A value is set last, or not at all. -/
theorem place_sets (b : β) (id : String) (value : Blob) :
    ∃ between, Drops id b between ∧
      ((∃ e, (place b id value).1 = .error e) ∧ (place b id value).2 = between ∨
        (place b id value).1 = .ok () ∧
          Backend.set between id value = .ok (place b id value).2) := by
  have hothers : id ∉ otherKeys b id := fun h => otherKeys_ne h rfl
  have hdrops := removeAll_drops b hothers
  unfold place
  split
  · next next hset => exact ⟨b, .refl id b, Or.inr ⟨rfl, hset⟩⟩
  · split
    · next e between hremove =>
      rw [hremove] at hdrops
      exact ⟨between, hdrops, Or.inl ⟨⟨_, rfl⟩, rfl⟩⟩
    · -- the second try, with no other key left
      next between hremove =>
      rw [hremove] at hdrops
      refine ⟨between, hdrops, ?_⟩
      split
      · next next hset => exact Or.inr ⟨rfl, hset⟩
      · exact Or.inl ⟨⟨_, rfl⟩, rfl⟩
      · exact Or.inl ⟨⟨_, rfl⟩, rfl⟩
  · exact ⟨b, .refl id b, Or.inl ⟨⟨_, rfl⟩, rfl⟩⟩

/-- A save drops entries of other keys. Then it sets the record, stamped over what was there before,
or it fails. -/
theorem save_sets (s : ProjectStore β) (now : Instant) (r : ProjectRecord) :
    ∃ between, Drops (r.storageId now) s.backend between ∧
      ((∃ e, (s.save now r).1 = .error e) ∧ (s.save now r).2.backend = between ∨
        ∃ before, Backend.get s.backend (r.storageId now) = .ok before ∧
          let stored := r.stamped (r.storageId now) now (before.bind (s.decoded? now))
          (s.save now r).1 = .ok stored ∧
            Backend.set between (r.storageId now) (s.encoded stored) =
              .ok (s.save now r).2.backend) := by
  unfold save
  dsimp only
  split
  · exact ⟨s.backend, .refl _ _, Or.inl ⟨⟨_, rfl⟩, rfl⟩⟩
  · next before hget =>
    let stored := r.stamped (r.storageId now) now (before.bind (s.decoded? now))
    have hroom := makeRoom_drops s.config s.packing s.backend now (r.storageId now)
      (s.encoded stored).size
    split
    · next e roomy hmake =>
      rw [hmake] at hroom
      exact ⟨roomy, hroom, Or.inl ⟨⟨_, rfl⟩, rfl⟩⟩
    · next roomy hmake =>
      rw [hmake] at hroom
      obtain ⟨between, hdrops, ⟨⟨e, herror⟩, hstate⟩ | ⟨hok, hset⟩⟩ :=
        place_sets roomy (r.storageId now) (s.encoded stored)
      · refine ⟨between, hroom.trans hdrops, Or.inl ⟨⟨e, ?_⟩, hstate⟩⟩
        rw [herror]
        rfl
      · refine ⟨between, hroom.trans hdrops, Or.inr ⟨before, hget, ?_, hset⟩⟩
        rw [hok]
        rfl

end ProjectStore

end PageBuilder
