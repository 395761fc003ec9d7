import PageBuilder.Proofs.Document.Records
import PageBuilder.Proofs.Store.Limits

/-!
A store as a map from ids to records. Along any run of saves and deletions every entry is the stored
form of one record under its own id, a save changes its own record and may drop others, and the
lists of the store show exactly the records of the map.
-/

namespace PageBuilder

namespace Instant

theorem ext {a b : Instant} (hseconds : a.seconds = b.seconds) (hnanos : a.nanos = b.nanos) :
    a = b := by
  cases a
  cases b
  cases hseconds
  cases hnanos
  rfl

theorem le_iff {a b : Instant} :
    a.le b = true ↔ a.seconds < b.seconds ∨ a.seconds = b.seconds ∧ a.nanos ≤ b.nanos := by
  simp [le]

theorem le_trans {a b c : Instant} (hab : a.le b = true) (hbc : b.le c = true) :
    a.le c = true := by
  rw [le_iff] at hab hbc ⊢
  omega

theorem le_total (a b : Instant) : a.le b = true ∨ b.le a = true := by
  rw [le_iff, le_iff]
  omega

theorem le_antisymm {a b : Instant} (hab : a.le b = true) (hba : b.le a = true) : a = b := by
  rw [le_iff] at hab hba
  have hseconds : a.seconds = b.seconds := by omega
  have hnanos : a.nanos = b.nanos := by omega
  exact Instant.ext hseconds hnanos

end Instant

namespace ProjectRecord

/-- A record comes before another one in lists: it was updated later, or at the same time and its id
is smaller. -/
def ListedAhead (a b : ProjectRecord) : Prop :=
  b.updatedAt.le a.updatedAt = true ∧ a.updatedAt ≠ b.updatedAt ∨
    a.updatedAt = b.updatedAt ∧ a.id < b.id

theorem listedBefore_iff {a b : ProjectRecord} :
    listedBefore a b = true ↔
      a.updatedAt = b.updatedAt ∧ a.id ≤ b.id ∨
        a.updatedAt ≠ b.updatedAt ∧ b.updatedAt.le a.updatedAt = true := by
  unfold listedBefore
  by_cases h : a.updatedAt = b.updatedAt <;> simp [h]

theorem listedBefore_trans (a b c : ProjectRecord) (hab : listedBefore a b = true)
    (hbc : listedBefore b c = true) : listedBefore a c = true := by
  rw [listedBefore_iff] at hab hbc ⊢
  rcases hab with ⟨htab, hab⟩ | ⟨htab, hab⟩ <;> rcases hbc with ⟨htbc, hbc⟩ | ⟨htbc, hbc⟩
  · exact Or.inl ⟨htab.trans htbc, String.le_trans hab hbc⟩
  · exact Or.inr ⟨htab ▸ htbc, htab ▸ hbc⟩
  · exact Or.inr ⟨htbc ▸ htab, htbc ▸ hab⟩
  · refine Or.inr ⟨fun hac => ?_, Instant.le_trans hbc hab⟩
    rw [hac] at hab
    exact htbc (Instant.le_antisymm hab hbc)

theorem listedBefore_total (a b : ProjectRecord) :
    (listedBefore a b || listedBefore b a) = true := by
  rw [Bool.or_eq_true, listedBefore_iff, listedBefore_iff]
  by_cases h : a.updatedAt = b.updatedAt
  · exact (String.le_total a.id b.id).imp (fun hle => Or.inl ⟨h, hle⟩)
      fun hle => Or.inl ⟨h.symm, hle⟩
  · exact (Instant.le_total b.updatedAt a.updatedAt).imp (fun hle => Or.inr ⟨h, hle⟩)
      fun hle => Or.inr ⟨Ne.symm h, hle⟩

theorem listedAhead_of_listedBefore {a b : ProjectRecord} (h : listedBefore a b = true)
    (hid : a.id ≠ b.id) : ListedAhead a b := by
  rcases listedBefore_iff.1 h with ⟨htime, hle⟩ | ⟨htime, hle⟩
  · have hlt : a.id < b.id := by
      apply String.not_le.1
      intro hge
      exact hid (String.le_antisymm hle hge)
    exact Or.inr ⟨htime, hlt⟩
  · exact Or.inl ⟨hle, htime⟩

end ProjectRecord

/-- A call that changes a store. -/
inductive StoreCall where
  | save (record : ProjectRecord)
  | delete (id : String)

namespace ProjectStore

/-- What a store keeps of a record is read as the record, whenever that is. -/
def DecodesBack (s : ProjectStore MemoryBackend) (r : ProjectRecord) : Prop :=
  ∀ now, ProjectRecord.decode s.packing now (s.encoded r) = .ok r

/-- The store holds the stored forms of some records, each under its own id. -/
structure Holds (s : ProjectStore MemoryBackend) (records : SortedMap ProjectRecord) : Prop where
  encoded : ∀ key, s.backend.entries.get? key = (records.get? key).map s.encoded
  keyed : ∀ key r, records.get? key = some r → r.id = key
  decodesBack : ∀ key r, records.get? key = some r → s.DecodesBack r

/-- The store after a call. -/
def called (s : ProjectStore MemoryBackend) (now : Instant) : StoreCall → ProjectStore MemoryBackend
  | .save r => (s.save now r).2
  | .delete id =>
    match s.delete id with
    | .ok (_, s) => s
    | .error _ => s

/-- The store after calls, each at its own time. -/
def after (s : ProjectStore MemoryBackend) (calls : List (Instant × StoreCall)) :
    ProjectStore MemoryBackend :=
  calls.foldl (fun s c => s.called c.1 c.2) s

/-- What a call writes, if it writes a record, is read back. -/
def WritesBack (s : ProjectStore MemoryBackend) (now : Instant) : StoreCall → Prop
  | .save r => s.DecodesBack (s.written now r)
  | .delete _ => True

/-- Every record that is written on the way is read back. -/
def AllWriteBack (s : ProjectStore MemoryBackend) : List (Instant × StoreCall) → Prop
  | [] => True
  | c :: rest => s.WritesBack c.1 c.2 ∧ AllWriteBack (s.called c.1 c.2) rest

variable {s : ProjectStore MemoryBackend} {records : SortedMap ProjectRecord}

theorem new_holds (config : StoreConfig) (packing : Packing) (quota : Option Nat) :
    Holds ⟨.new quota, config, packing⟩ .empty := by
  refine ⟨fun _ => rfl, fun _ _ h => ?_, fun _ _ h => ?_⟩ <;> cases h

theorem Holds.without (h : s.Holds records) (gone : List String) :
    (s.holding (s.backend.entries.without gone)).Holds (records.without gone) := by
  have hkept (key : String) (r : ProjectRecord) (hr : (records.without gone).get? key = some r) :
      records.get? key = some r := by
    rw [SortedMap.get?_without] at hr
    split at hr
    · cases hr
    · exact hr
  refine ⟨fun key => ?_, fun key r hr => h.keyed key r (hkept key r hr),
    fun key r hr => h.decodesBack key r (hkept key r hr)⟩
  have hentries : (s.holding (s.backend.entries.without gone)).backend.entries =
      s.backend.entries.without gone := rfl
  rw [hentries, holding_encoded, SortedMap.get?_without, SortedMap.get?_without, h.encoded]
  by_cases hkey : key ∈ gone <;> simp [hkey]

theorem Holds.insert (h : s.Holds records) {r : ProjectRecord} (hr : s.DecodesBack r) :
    (s.holding (s.backend.entries.insert r.id (s.encoded r))).Holds (records.insert r.id r) := by
  have hfound (key : String) (x : ProjectRecord) (hx : (records.insert r.id r).get? key = some x) :
      key = r.id ∧ x = r ∨ records.get? key = some x := by
    rw [SortedMap.get?_insert] at hx
    by_cases hkey : key = r.id
    · rw [if_pos hkey] at hx
      exact Or.inl ⟨hkey, (Option.some.inj hx).symm⟩
    · rw [if_neg hkey] at hx
      exact Or.inr hx
  refine ⟨fun key => ?_, fun key x hx => ?_, fun key x hx => ?_⟩
  · have hentries : (s.holding (s.backend.entries.insert r.id (s.encoded r))).backend.entries =
        s.backend.entries.insert r.id (s.encoded r) := rfl
    rw [hentries, holding_encoded, SortedMap.get?_insert, SortedMap.get?_insert, h.encoded]
    by_cases hkey : key = r.id <;> simp [hkey]
  · rcases hfound key x hx with ⟨rfl, rfl⟩ | hx
    · rfl
    · exact h.keyed key x hx
  · rcases hfound key x hx with ⟨-, rfl⟩ | hx
    · exact hr
    · exact h.decodesBack key x hx

/-- Saving drops some of the other records, and sets its own unless it fails. -/
theorem save_holds (h : s.Holds records) (now : Instant) (r : ProjectRecord)
    (hr : s.DecodesBack (s.written now r)) :
    ∃ gone, (s.written now r).id ∉ gone ∧
      ((s.save now r).1 = .ok (s.written now r) ∧
          (s.save now r).2.Holds
            ((records.without gone).insert (s.written now r).id (s.written now r)) ∨
        (∀ stored, (s.save now r).1 ≠ .ok stored) ∧
          (s.save now r).2.Holds (records.without gone)) := by
  obtain ⟨gone, hgone, ⟨-, hsave, -⟩ | ⟨-, hsave⟩⟩ := s.save_spec now r
  · refine ⟨gone, hgone, Or.inl ⟨by rw [hsave], ?_⟩⟩
    rw [hsave]
    exact (h.without gone).insert hr
  · refine ⟨gone, hgone, Or.inr ⟨fun stored hok => ?_, ?_⟩⟩
    · rw [hsave] at hok
      cases hok
    · rw [hsave]
      exact h.without gone

theorem delete_eq (s : ProjectStore MemoryBackend) (id : String) :
    s.delete id = .ok (s.backend.entries.contains id,
      s.holding (s.backend.entries.without [id])) := by
  have herase : s.backend.entries.erase id = s.backend.entries.without [id] := by
    rw [← SortedMap.without_erase, SortedMap.without_nil]
  unfold holding
  rw [← herase]
  rfl

theorem called_delete (s : ProjectStore MemoryBackend) (now : Instant) (id : String) :
    s.called now (.delete id) = s.holding (s.backend.entries.without [id]) := by
  simp only [called, delete_eq]

/-- No call changes how records are packed. -/
theorem called_packing (s : ProjectStore MemoryBackend) (now : Instant) (c : StoreCall) :
    (s.called now c).packing = s.packing := by
  cases c with
  | delete id =>
    rw [called_delete]
    rfl
  | save r =>
    obtain ⟨gone, -, ⟨-, hsave, -⟩ | ⟨-, hsave⟩⟩ := s.save_spec now r
    · rw [called, hsave]
      rfl
    · rw [called, hsave]
      rfl

theorem delete_holds (h : s.Holds records) (id : String) (now : Instant) :
    (s.called now (.delete id)).Holds (records.without [id]) := by
  rw [called_delete]
  exact h.without [id]

theorem after_holds (s : ProjectStore MemoryBackend) (records : SortedMap ProjectRecord)
    (h : s.Holds records) (calls : List (Instant × StoreCall)) (hcalls : s.AllWriteBack calls) :
    ∃ records, (s.after calls).Holds records := by
  induction calls generalizing s records with
  | nil => exact ⟨records, h⟩
  | cons c rest ih =>
    obtain ⟨now, c⟩ := c
    obtain ⟨hfirst, hrest⟩ := hcalls
    cases c with
    | save r =>
      obtain ⟨gone, -, ⟨-, hnext⟩ | ⟨-, hnext⟩⟩ := save_holds h now r hfirst
      · exact ih _ _ hnext hrest
      · exact ih _ _ hnext hrest
    | delete id => exact ih _ _ (delete_holds h id now) hrest

theorem Holds.load_eq (h : s.Holds records) (now : Instant) (id : String) :
    s.load now id = .ok (records.get? id) := by
  have hget : Backend.get s.backend id = .ok ((records.get? id).map s.encoded) :=
    congrArg Except.ok (h.encoded id)
  unfold load
  rw [hget]
  cases hr : records.get? id with
  | none => rfl
  | some r =>
    simp only [Option.map_some]
    rw [h.decodesBack id r hr now]

theorem Holds.list_eq (h : s.Holds records) (now : Instant) :
    s.list now = .ok (records.values.mergeSort ProjectRecord.listedBefore) := by
  have hentries : s.backend.entries = records.mapValues fun _ r => s.encoded r := by
    apply SortedMap.ext_get?
    intro key
    rw [h.encoded, SortedMap.get?_mapValues]
  have hvalues : valuesAt s.backend (Backend.keys s.backend) = .ok s.backend.entries.entries :=
    valuesAt_entries s.backend _ fun _ he => he
  have hread : s.backend.entries.entries.filterMap
      (fun v => s.decoded? now v.2) = records.values := by
    rw [hentries]
    unfold SortedMap.mapValues SortedMap.values
    rw [List.filterMap_map, ← List.filterMap_eq_map]
    apply List.filterMap_congr
    intro e he
    have hback := h.decodesBack e.1 e.2 (SortedMap.get?_eq_some_iff.2 he) now
    simp only [Function.comp, decoded?, ProjectRecord.decode?, hback]
    rfl
  unfold list
  rw [hvalues]
  dsimp only
  rw [hread]

/-- The records of a list are those of the map, in the order of lists. -/
theorem Holds.listed (h : s.Holds records) :
    ((records.values.mergeSort ProjectRecord.listedBefore).map ProjectRecord.id).Nodup ∧
      (records.values.mergeSort ProjectRecord.listedBefore).Pairwise
        ProjectRecord.ListedAhead := by
  have hperm := List.mergeSort_perm records.values ProjectRecord.listedBefore
  have hids : records.values.map ProjectRecord.id = records.keys := by
    unfold SortedMap.values SortedMap.keys
    rw [List.map_map]
    apply List.map_congr_left
    intro e he
    exact h.keyed e.1 e.2 (SortedMap.get?_eq_some_iff.2 he)
  have hnodup : ((records.values.mergeSort ProjectRecord.listedBefore).map
      ProjectRecord.id).Nodup := by
    rw [(hperm.map ProjectRecord.id).nodup_iff, hids]
    exact records.keys_nodup
  refine ⟨hnodup, ?_⟩
  have hsorted := List.pairwise_mergeSort ProjectRecord.listedBefore_trans
    ProjectRecord.listedBefore_total records.values
  refine (hsorted.and (List.pairwise_map.1 hnodup)).imp fun hboth => ?_
  exact ProjectRecord.listedAhead_of_listedBefore hboth.1 hboth.2

/-- After any saves and deletions on an empty store its entries are records under their own ids, and
loading finds exactly these. Lists, searches and counts show each of them once, the last updated
first. A save that succeeds can be loaded, and a save or a deletion leaves every other id as it was
or, a save only, without a record. -/
theorem store_refines_records (config : StoreConfig) (packing : Packing) (quota : Option Nat)
    (calls : List (Instant × StoreCall))
    (hback : (ProjectStore.mk (MemoryBackend.new quota) config packing).AllWriteBack calls) :
    let s := (ProjectStore.mk (MemoryBackend.new quota) config packing).after calls
    ∃ records, s.Holds records ∧
      (∀ now id, s.load now id = .ok (records.get? id)) ∧
      (∀ now, ∃ listed, s.list now = .ok listed ∧ listed.Perm records.values ∧
        (listed.map ProjectRecord.id).Nodup ∧ listed.Pairwise ProjectRecord.ListedAhead ∧
        (∀ query, s.search now query = .ok (listed.filter fun r => r.isMatch query)) ∧
        ∃ stats, s.stats now = .ok stats ∧ stats.count = listed.length) ∧
      (∀ now r, s.DecodesBack (s.written now r) →
        (∀ stored, (s.save now r).1 = .ok stored ↔
          s.backend.quota.all ((s.encoded (s.written now r)).size ≤ ·) = true ∧
            stored = s.written now r) ∧
        (∀ stored, (s.save now r).1 = .ok stored →
          ∀ later, (s.save now r).2.load later stored.id = .ok (some stored)) ∧
        ∀ id, (∀ stored, (s.save now r).1 = .ok stored → id ≠ stored.id) →
          ∀ later, (s.save now r).2.load later id = s.load later id ∨
            (s.save now r).2.load later id = .ok none) ∧
      ∀ id, ∃ t, s.delete id = .ok ((records.get? id).isSome, t) ∧
        ∀ now other, t.load now other = if other = id then .ok none else s.load now other := by
  intro s
  obtain ⟨records, h⟩ := after_holds _ .empty (new_holds config packing quota) calls hback
  refine ⟨records, h, h.load_eq, fun now => ?_, fun now r hr => ⟨?_, ?_, ?_⟩, fun id => ?_⟩
  · refine ⟨_, h.list_eq now, List.mergeSort_perm _ _, h.listed.1, h.listed.2, fun query => ?_, ?_⟩
    · unfold search
      rw [h.list_eq]
      rfl
    · unfold stats
      rw [h.list_eq]
      exact ⟨_, rfl, rfl⟩
  · intro stored
    exact s.save_eq_ok_iff now r
  · intro stored hok later
    obtain ⟨gone, -, ⟨hsaved, hnext⟩ | ⟨hfailed, -⟩⟩ := save_holds h now r hr
    · rw [hsaved] at hok
      cases hok
      rw [hnext.load_eq, SortedMap.get?_insert_self]
    · exact absurd hok (hfailed stored)
  · intro id hid later
    have hdropped (gone : List String) : (records.without gone).get? id = records.get? id ∨
        (records.without gone).get? id = none := by
      rw [SortedMap.get?_without]
      by_cases hgone : id ∈ gone <;> simp [hgone]
    obtain ⟨gone, -, ⟨hsaved, hnext⟩ | ⟨-, hnext⟩⟩ := save_holds h now r hr
    · rw [hnext.load_eq, h.load_eq, SortedMap.get?_insert, if_neg (hid _ hsaved)]
      exact (hdropped gone).imp (congrArg _) (congrArg _)
    · rw [hnext.load_eq, h.load_eq]
      exact (hdropped gone).imp (congrArg _) (congrArg _)
  · refine ⟨s.holding (s.backend.entries.without [id]), ?_, fun now other => ?_⟩
    · have hcontains : s.backend.entries.contains id = (records.get? id).isSome := by
        unfold SortedMap.contains
        rw [h.encoded, Option.isSome_map]
      rw [← hcontains]
      exact s.delete_eq id
    · rw [(h.without [id]).load_eq, h.load_eq, SortedMap.get?_without]
      simp only [List.mem_singleton]
      split <;> rfl

section Reopened

/-- A project without sections. -/
def plain : ProjectRecord :=
  { ProjectRecord.new "Shop" .empty ⟨0, 0⟩ with id := "p", tags := ["sale"], thumbnail := some "t" }

/-- A stored record without sections is read back. -/
theorem plain_stamped {s : ProjectStore MemoryBackend} (hp : s.packing.Lossless) (id : String)
    {now : Instant} (hnow : now.ReadsBack) : s.DecodesBack (plain.stamped id now none) := by
  have hback : (plain.stamped id now none).ReadsBack :=
    ⟨List.forall_mem_nil _, hnow, hnow, Nat.mod_lt _ (by decide)⟩
  have hlevels : (plain.stamped id now none).toJson.levels ≤ Json.maxNesting := by
    have htwo : (plain.stamped id now none).toJson.levels = 2 := rfl
    rw [htwo]
    decide
  intro later
  have hdecode := ProjectRecord.decode_encode hp s.config.compressionLevel hback rfl later
  rw [if_pos hlevels] at hdecode
  obtain ⟨q, hq, hsame⟩ := hdecode
  rw [ProjectRecord.eq_of_same rfl rfl hsame] at hq
  exact hq

theorem plain_written {s : ProjectStore MemoryBackend} (hp : s.packing.Lossless) {now : Instant}
    (habsent : s.backend.entries.get? "p" = none) (hnow : now.ReadsBack) :
    s.DecodesBack (s.written now plain) := by
  have hwritten : s.written now plain = plain.stamped "p" now none := by
    have hid : plain.storageId now = "p" := rfl
    rw [written, hid, habsent]
    rfl
  rw [hwritten]
  exact plain_stamped hp "p" hnow

theorem store_refines_records_again :
    let config : StoreConfig := { compressionLevel := -50 }
    let store : ProjectStore MemoryBackend := ⟨.new (some 1000), config, Frame.packing⟩
    let calls := [(⟨0, 0⟩, StoreCall.save plain), (⟨1, 0⟩, .delete "p"), (⟨2, 0⟩, .save plain)]
    store.AllWriteBack calls ∧ ∃ records, (store.after calls).Holds records ∧
      ∀ now id, (store.after calls).load now id = .ok (records.get? id) := by
  intro config store calls
  have hlossless := Frame.packing_lossless
  have hback : store.AllWriteBack calls := by
    refine ⟨plain_written hlossless rfl rfl, trivial, plain_written ?_ ?_ rfl, trivial⟩
    · rw [called_packing, called_packing]
      exact hlossless
    · -- the deletion leaves no record to take the time of creation from
      rw [called_delete]
      exact (SortedMap.get?_without _ _ _).trans (if_pos (List.mem_singleton.2 rfl))
  obtain ⟨records, hrecords, hload, -⟩ :=
    store_refines_records config Frame.packing (some 1000) calls hback
  exact ⟨hback, records, hrecords, hload⟩

end Reopened

end ProjectStore

end PageBuilder
