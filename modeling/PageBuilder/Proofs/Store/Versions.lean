import PageBuilder.Proofs.Store.Laws
import PageBuilder.Proofs.Store.Records
import PageBuilder.Store.Import

/-!
Versions of saved projects. A save takes the version after the newest one that it meets: the one of
the record that is given and the one of the readable record that is there under its id. Versions fit
64 bits and start again at zero after the last one. Apart from that they go up as long as the entry
of an id stays and can be read.
-/

namespace PageBuilder

theorem Json.nat?_lt {j : Json} {n : Nat} (h : j.nat? = some n) : n < wordLimit := by
  obtain ⟨k, hk, rfl⟩ := Option.map_eq_some_iff.1 h
  unfold intBetween? at hk
  split at hk
  · split at hk
    · next hrange =>
      obtain rfl := Option.some.inj hk
      rw [Bool.and_eq_true, decide_eq_true_eq, decide_eq_true_eq] at hrange
      omega
    · cases hk
  · cases hk

namespace ProjectRecord

/-- A version that is read fits 64 bits, as does the one of a record without. -/
theorem ofJson?_version {now : Instant} {j : Json} {r : ProjectRecord}
    (h : ofJson? now j = some r) : r.version < wordLimit := by
  unfold ofJson? at h
  split at h
  · simp only [Option.bind_eq_bind, Option.bind_eq_some_iff] at h
    obtain ⟨f, -, _, -, _, -, _, -, _, -, _, -, _, -, _, -, version, hversion, _, -, heq⟩ := h
    obtain rfl := Option.some.inj heq
    unfold Json.Fields.defaulted at hversion
    split at hversion
    · exact Json.nat?_lt hversion
    · obtain rfl := Option.some.inj hversion
      exact (by decide : 0 < wordLimit)
  · cases h

theorem decode?_version {p : Packing} {now : Instant} {value : Blob} {r : ProjectRecord}
    (h : decode? p now value = some r) : r.version < wordLimit := by
  unfold decode? decode at h
  split at h
  · cases h
  · split at h
    · next hread =>
      obtain rfl := Option.some.inj h
      obtain ⟨text, -, htext⟩ := Option.bind_eq_some_iff.1 hread
      obtain ⟨j, -, hj⟩ := Option.bind_eq_some_iff.1 htext
      exact ofJson?_version hj
    · cases h

end ProjectRecord

theorem projectId_isEmpty (name : String) (now : Instant) :
    (projectId name now).isEmpty = false := by
  have hne : projectId name now ≠ "" := by
    intro h
    have hchars := congrArg String.toList h
    simp [projectId] at hchars
  simpa using hne

/-- An imported record has an id, and its version fits 64 bits. -/
theorem importProject_ok {now : Instant} {text : String} {r : ProjectRecord}
    (h : importProject now text = .ok r) : r.id.isEmpty = false ∧ r.version < wordLimit := by
  unfold importProject at h
  obtain ⟨json, -, h⟩ := bind_ok h
  split at h
  · split at h
    · split at h
      · split at h
        · split at h
          · next q hq =>
            -- the answer is the record that is read, under a new id if its own is blank
            have hversion := ProjectRecord.ofJson?_version hq
            obtain rfl := Except.ok.inj h
            split
            · exact ⟨projectId_isEmpty .., hversion⟩
            · next hid =>
              refine ⟨Bool.eq_false_iff.2 fun hempty => hid ?_, hversion⟩
              have hblank : q.id = "" := String.isEmpty_iff.1 hempty
              rw [hblank]
              decide
          · cases h
        · cases h
      · cases h
    · cases h
  · cases h

namespace ProjectStore

variable {β : Type} [Backend β]

/-- The record that a call stores, if it stores one, and the store after it. -/
def answer (s : ProjectStore β) (now : Instant) : StoreCall → Option ProjectRecord × ProjectStore β
  | .save r => ((s.save now r).1.toOption, (s.save now r).2)
  | .delete id =>
    match s.delete id with
    | .ok (_, next) => (none, next)
    | .error _ => (none, s)

theorem answer_delete (s : ProjectStore β) (now : Instant) (key : String) :
    s.answer now (.delete key) =
      match Backend.remove s.backend key with
      | .ok (_, next) => (none, { s with backend := next })
      | .error _ => (none, s) := by
  simp only [answer, delete]
  rcases Backend.remove s.backend key with e | ⟨found, next⟩
  · rfl
  · rfl

/-- No call changes how records are packed. -/
theorem answer_packing (s : ProjectStore β) (now : Instant) (c : StoreCall) :
    (s.answer now c).2.packing = s.packing := by
  cases c with
  | delete key =>
    rw [answer_delete]
    split <;> rfl
  | save r =>
    unfold answer save
    dsimp only
    split
    · rfl
    · split <;> rfl

/-- What calls store, each at its own time, and the store after them. -/
def run : ProjectStore β → List (Instant × StoreCall) →
    List (Option ProjectRecord) × ProjectStore β :=
  runMachine fun s c => s.answer c.1 c.2

/-- The versions of the records that are stored under an id, in order. -/
def versionsOf (id : String) (stored : List (Option ProjectRecord)) : List Nat :=
  stored.filterMap fun r? => (r?.filter fun r => r.id == id).map ProjectRecord.version

/-- A call keeps the entry of an id if one was there, and what it stores under the id reads back and
has a version other than zero. -/
structure KeepsEntry (id : String) (s : ProjectStore β) (now : Instant) (c : StoreCall) : Prop where
  stays : ∀ value, Backend.get s.backend id = .ok (some value) →
    ∃ value, Backend.get (s.answer now c).2.backend id = .ok (some value)
  fits : ∀ r, c = .save r → r.version < wordLimit
  readable : ∀ stored, (s.answer now c).1 = some stored → stored.id = id →
    stored.ReadsBack ∧ stored.toJson.levels ≤ Json.maxNesting ∧ stored.version ≠ 0

/-- The entry of an id is read as a record of a version. -/
def HoldsVersion (s : ProjectStore β) (id : String) (version : Nat) : Prop :=
  ∃ value, Backend.get s.backend id = .ok (some value) ∧
    ∀ now, ∃ q, ProjectRecord.decode s.packing now value = .ok q ∧ q.version = version

end ProjectStore

namespace ProjectRecord

/-- The version of a stamped record is one more than the newest of the two it comes from, and zero
after the last one. -/
theorem stamped_version {r : ProjectRecord} {previous : Option ProjectRecord} (id : String)
    (now : Instant) (hr : r.version < wordLimit)
    (hprevious : ∀ p ∈ previous, p.version < wordLimit) :
    let newest := ((previous.map version).getD 0).max r.version
    (r.stamped id now previous).version = if newest + 1 < wordLimit then newest + 1 else 0 := by
  intro newest
  have hnewest : newest < wordLimit := by
    refine Nat.max_lt.2 ⟨?_, hr⟩
    cases previous with
    | none => exact (by decide : 0 < wordLimit)
    | some p => exact hprevious p rfl
  have hversion : (r.stamped id now previous).version = (newest + 1) % wordLimit := rfl
  rw [hversion]
  split
  · next hroom => exact Nat.mod_eq_of_lt hroom
  · next hfull => rw [show newest + 1 = wordLimit by omega, Nat.mod_self]

/-- The stored form of a record that is not too deep is read with the record's version. -/
theorem decodes_version {p : Packing} (hp : p.Lossless) (level : Int) {r : ProjectRecord}
    (h : r.ReadsBack) (hextra : r.extra = .empty) (now : Instant) :
    (∃ q, decode p now (r.encode p level) = .ok q ∧ q.id = r.id ∧ q.version = r.version) ↔
      r.toJson.levels ≤ Json.maxNesting := by
  have hdecode := decode_encode hp level h hextra now
  constructor
  · rintro ⟨q, hq, -⟩
    by_contra hdeep
    rw [if_neg hdeep, hq] at hdecode
    cases hdecode
  · intro hlevels
    rw [if_pos hlevels] at hdecode
    obtain ⟨q, hq, hsame⟩ := hdecode
    simp only [same, Bool.and_eq_true, beq_iff_eq, and_assoc] at hsame
    obtain ⟨hid, -, -, -, -, -, -, hversion, -⟩ := hsame
    exact ⟨q, hq, hid, hversion⟩

end ProjectRecord

namespace ProjectStore

variable {β : Type} [Backend β] [LawfulBackend β]

/-- A save that succeeds stores the record with the version after the newest one that it has met,
under its own id. -/
theorem save_stored {s : ProjectStore β} {now : Instant} {r stored : ProjectRecord}
    (hr : r.version < wordLimit) (h : (s.save now r).1 = .ok stored) :
    ∃ before, Backend.get s.backend stored.id = .ok before ∧
      let previous := before.bind (s.decoded? now)
      let newest := ((previous.map ProjectRecord.version).getD 0).max r.version
      stored.id = r.storageId now ∧ stored.extra = .empty ∧
      stored.version = (if newest + 1 < wordLimit then newest + 1 else 0) ∧
      Backend.get (s.save now r).2.backend stored.id = .ok (some (s.encoded stored)) := by
  obtain ⟨between, -, ⟨⟨e, herror⟩, -⟩ | ⟨before, hget, hok, hset⟩⟩ := save_sets s now r
  · rw [herror] at h
    cases h
  · rw [hok] at h
    obtain rfl := Except.ok.inj h
    have hprevious : ∀ p ∈ before.bind (s.decoded? now), p.version < wordLimit := by
      intro p hp
      obtain ⟨value, -, hvalue⟩ := Option.bind_eq_some_iff.1 hp
      exact ProjectRecord.decode?_version hvalue
    exact ⟨before, hget, rfl, rfl, ProjectRecord.stamped_version _ now hr hprevious,
      LawfulBackend.get_set hset⟩

/-- A call that stores nothing under an id leaves its entry as it was or takes it away. -/
theorem answer_get (s : ProjectStore β) (now : Instant) (c : StoreCall) {id : String}
    (hother : ∀ stored, (s.answer now c).1 = some stored → stored.id ≠ id) :
    Backend.get (s.answer now c).2.backend id = Backend.get s.backend id ∨
      Backend.get (s.answer now c).2.backend id = .ok none := by
  cases c with
  | save r =>
    have hnext : (s.answer now (.save r)).2 = (s.save now r).2 := rfl
    obtain ⟨between, hdrops, ⟨-, hstate⟩ | ⟨before, -, hok, hset⟩⟩ := save_sets s now r
    · rw [hnext, hstate]
      exact (hdrops id).imp_right And.right
    · have hstored : (s.answer now (.save r)).1 = some _ := congrArg Except.toOption hok
      have hne : r.storageId now ≠ id := hother _ hstored
      rw [hnext, LawfulBackend.get_set_ne hset hne.symm]
      exact (hdrops id).imp_right And.right
  | delete key =>
    rw [answer_delete]
    split
    · next found next hremove =>
      by_cases hkey : id = key
      · rw [hkey]
        exact Or.inr (LawfulBackend.get_remove hremove)
      · exact Or.inl (LawfulBackend.get_remove_ne hremove hkey)
    · exact Or.inl rfl

/-- What is stored over a record is newer than it, unless its version is zero. -/
theorem stored_newer {s : ProjectStore β} {now : Instant} {r stored : ProjectRecord} {version : Nat}
    (hr : r.version < wordLimit) (hsave : (s.save now r).1 = .ok stored)
    (hpositive : stored.version ≠ 0) (hholds : s.HoldsVersion stored.id version) :
    version < stored.version := by
  obtain ⟨before, hget, -, -, hversion, -⟩ := save_stored hr hsave
  obtain ⟨value, hvalue, hdecodes⟩ := hholds
  obtain ⟨q, hq, rfl⟩ := hdecodes now
  obtain rfl : before = some value := Except.ok.inj (hget.symm.trans hvalue)
  have hprevious : (some value).bind (s.decoded? now) = some q := by
    rw [Option.bind_some, decoded?, ProjectRecord.decode?, hq]
    rfl
  rw [hprevious] at hversion
  split at hversion
  · rw [hversion]
    exact Nat.lt_succ_of_le (Nat.le_max_left ..)
  · exact absurd hversion hpositive

/-- A call that keeps the entry of an id stores a newer record over the one that is there, or leaves
it as it is. -/
theorem answer_holdsVersion {s : ProjectStore β} (hp : s.packing.Lossless) {now : Instant}
    {c : StoreCall} {id : String} (h : s.KeepsEntry id now c) :
    (∃ stored, (s.answer now c).1 = some stored ∧ stored.id = id ∧
      (s.answer now c).2.HoldsVersion id stored.version ∧
      ∀ version, s.HoldsVersion id version → version < stored.version) ∨
    (∀ stored, (s.answer now c).1 = some stored → stored.id ≠ id) ∧
      ∀ version, s.HoldsVersion id version → (s.answer now c).2.HoldsVersion id version := by
  by_cases hstores : ∃ stored, (s.answer now c).1 = some stored ∧ stored.id = id
  · -- only a save answers with a record, and what it stores reads back
    left
    obtain ⟨stored, hanswer, rfl⟩ := hstores
    obtain ⟨hback, hlevels, hpositive⟩ := h.readable stored hanswer rfl
    cases c with
    | delete key =>
      rw [answer_delete] at hanswer
      split at hanswer <;> cases hanswer
    | save r =>
      have hsave : (s.save now r).1 = .ok stored := ok_of_toOption hanswer
      have hr := h.fits r rfl
      obtain ⟨before, -, -, hextra, -, hentry⟩ := save_stored hr hsave
      refine ⟨stored, hanswer, rfl, ⟨s.encoded stored, hentry, fun later => ?_⟩,
        fun version hholds => stored_newer hr hsave hpositive hholds⟩
      obtain ⟨q, hq, -, hversion⟩ := (ProjectRecord.decodes_version hp
        s.config.compressionLevel hback hextra later).2 hlevels
      rw [answer_packing]
      exact ⟨q, hq, hversion⟩
  · right
    have hother : ∀ stored, (s.answer now c).1 = some stored → stored.id ≠ id :=
      fun stored hanswer hid => hstores ⟨stored, hanswer, hid⟩
    refine ⟨hother, fun version hholds => ?_⟩
    obtain ⟨value, hvalue, hdecodes⟩ := hholds
    obtain ⟨left, hleft⟩ := h.stays value hvalue
    rw [← answer_packing s now c] at hdecodes
    rcases answer_get s now c hother with hsame | hgone
    · exact ⟨value, by rw [hsame, hvalue], hdecodes⟩
    · -- taken away, against the entry being kept
      rw [hgone] at hleft
      cases hleft

/-- As long as the entry of an id is kept, the versions under it go up, from the one that is there
at the start. -/
theorem run_versions (s : ProjectStore β) (hp : s.packing.Lossless) (id : String)
    (calls : List (Instant × StoreCall))
    (h : ∀ reached c, reached ++ [c] <+: calls → KeepsEntry id (s.run reached).2 c.1 c.2) :
    (versionsOf id (s.run calls).1).Pairwise (· < ·) ∧
      ∀ version, s.HoldsVersion id version → ∀ v ∈ versionsOf id (s.run calls).1, version < v := by
  -- for every store, so that the bound for the later calls starts from what the first one leaves
  induction calls generalizing s with
  | nil => exact ⟨List.Pairwise.nil, fun _ _ => List.forall_mem_nil _⟩
  | cons c rest ih =>
    have hfirst : s.KeepsEntry id c.1 c.2 := h [] c (by simp)
    let next := (s.answer c.1 c.2).2
    have hnext : next.packing.Lossless := by
      rw [answer_packing]
      exact hp
    obtain ⟨hpair, hbound⟩ := ih next hnext fun reached d hreached =>
      h (c :: reached) d (List.prefix_cons_inj c |>.2 hreached)
    have hrun : (s.run (c :: rest)).1 = (s.answer c.1 c.2).1 :: (next.run rest).1 := rfl
    rcases answer_holdsVersion hp hfirst with
      ⟨stored, hanswer, hid, hholds, hnewer⟩ | ⟨hother, hkeeps⟩
    · have hversions : versionsOf id (s.run (c :: rest)).1 =
          stored.version :: versionsOf id (next.run rest).1 := by
        rw [hrun, versionsOf, List.filterMap_cons, hanswer]
        simp [versionsOf, Option.filter_some, hid]
      rw [hversions, List.pairwise_cons]
      refine ⟨⟨hbound _ hholds, hpair⟩, fun version hversion => ?_⟩
      have hlt := hnewer version hversion
      exact List.forall_mem_cons.2 ⟨hlt, fun v hv => Nat.lt_trans hlt (hbound _ hholds v hv)⟩
    · have hversions : versionsOf id (s.run (c :: rest)).1 = versionsOf id (next.run rest).1 := by
        have hnone : ((s.answer c.1 c.2).1.filter fun r => r.id == id) = none := by
          rw [Option.filter_eq_none_iff]
          intro stored hstored
          simpa using hother stored hstored
        rw [hrun, versionsOf, List.filterMap_cons, hnone]
        rfl
      rw [hversions]
      exact ⟨hpair, fun version hversion => hbound version (hkeeps version hversion)⟩

/-- A save of an imported record that succeeds gives it a larger version than it had and than the
record had that was there, exactly if both are below the last version that fits 64 bits; otherwise
the version is zero. The entry is the stored form of the result, and is read as a record of its
version exactly if it is not too deep. As long as the entry of an id is kept, and none of its
versions is zero, the versions under it go up. -/
theorem save_version_grows_iff (s : ProjectStore β) (hp : s.packing.Lossless) :
    (∀ (imported now : Instant) (text : String) (r stored : ProjectRecord),
      importProject imported text = .ok r → (s.save now r).1 = .ok stored →
      ∃ before, Backend.get s.backend r.id = .ok before ∧
        let previous := before.bind (s.decoded? now)
        let newest := ((previous.map ProjectRecord.version).getD 0).max r.version
        stored.id = r.id ∧
        stored.version = (if newest + 1 < wordLimit then newest + 1 else 0) ∧
        ((r.version < stored.version ∧ ∀ p ∈ previous, p.version < stored.version) ↔
          newest + 1 < wordLimit) ∧
        Backend.get (s.save now r).2.backend r.id = .ok (some (s.encoded stored)) ∧
        (stored.ReadsBack → ∀ later,
          (∃ q, ProjectRecord.decode s.packing later (s.encoded stored) = .ok q ∧ q.id = r.id ∧
            q.version = stored.version) ↔ stored.toJson.levels ≤ Json.maxNesting)) ∧
    ∀ (id : String) (calls : List (Instant × StoreCall)),
      (∀ reached c, reached ++ [c] <+: calls → KeepsEntry id (s.run reached).2 c.1 c.2) →
        (versionsOf id (s.run calls).1).Pairwise (· < ·) := by
  refine ⟨fun imported now text r stored himport hsave => ?_, fun id calls h =>
    (run_versions s hp id calls h).1⟩
  obtain ⟨hid, hr⟩ := importProject_ok himport
  obtain ⟨before, hget, hkey, hextra, hversion, hentry⟩ := save_stored hr hsave
  have hown : stored.id = r.id := by
    rw [hkey, ProjectRecord.storageId, if_neg (by rw [hid]; exact Bool.false_ne_true)]
  rw [hown] at hget hentry
  refine ⟨before, hget, hown, hversion, ⟨fun hgrows => ?_, fun hroom => ?_⟩, hentry,
    fun hback later => ?_⟩
  · by_contra hfull
    rw [if_neg hfull] at hversion
    rw [hversion] at hgrows
    exact Nat.not_lt_zero _ hgrows.1
  · rw [hversion, if_pos hroom]
    refine ⟨Nat.lt_succ_of_le (Nat.le_max_right ..), fun p hp => ?_⟩
    rw [show before.bind (s.decoded? now) = some p from hp]
    exact Nat.lt_succ_of_le (Nat.le_max_left ..)
  · rw [← hown]
    exact ProjectRecord.decodes_version hp s.config.compressionLevel hback hextra later

/-- A project without sections, of a version. -/
def versionText (version : Nat) : String :=
  (Json.obj [("id", .str "p"), ("name", .str "Shop"), ("version", .nat version),
    ("sections", .obj [])]).compact

/-- An empty store without a quota. Nothing is compressed at its level. -/
def blankStore : ProjectStore MemoryBackend :=
  ⟨.new none, { compressionLevel := -50 }, Frame.packing⟩

/-- A record without sections that was made at the start of 1970. -/
def isFresh (r : ProjectRecord) : Bool :=
  r.sections.entries.isEmpty && r.createdAt == ⟨0, 0⟩ &&
    (r.updatedAt == ⟨0, 0⟩ || r.updatedAt == ⟨1, 0⟩) && r.version < wordLimit && r.version != 0 &&
    r.toJson.levels ≤ Json.maxNesting

/-- A call left an entry under `p`, and what it stored is such a record. -/
def leavesFresh (a : Option ProjectRecord × ProjectStore MemoryBackend) : Bool :=
  (a.2.backend.entries.get? "p").isSome && a.1.all isFresh

theorem keepsEntry_of_leavesFresh {s : ProjectStore MemoryBackend} {now : Instant}
    {r : ProjectRecord} (hr : r.version < wordLimit)
    (h : leavesFresh (s.answer now (.save r)) = true) : s.KeepsEntry "p" now (.save r) := by
  obtain ⟨hstays, hstored⟩ := Bool.and_eq_true_iff.1 h
  refine ⟨fun value _ => ?_, fun x hx => ?_, fun stored hanswer _ => ?_⟩
  · obtain ⟨left, hleft⟩ := Option.isSome_iff_exists.1 hstays
    exact ⟨left, congrArg Except.ok hleft⟩
  · obtain rfl := StoreCall.save.inj hx
    exact hr
  · rw [hanswer] at hstored
    simp only [isFresh, Option.all_some, Bool.and_eq_true, Bool.or_eq_true, beq_iff_eq,
      decide_eq_true_eq, bne_iff_ne, List.isEmpty_iff, and_assoc] at hstored
    obtain ⟨hsections, hcreated, hupdated, hfits, hpositive, hlevels⟩ := hstored
    refine ⟨⟨?_, ?_, ?_, hfits⟩, hlevels, hpositive⟩
    · intro e he
      rw [hsections] at he
      cases he
    · rw [hcreated]
      rfl
    · rcases hupdated with hupdated | hupdated
      · rw [hupdated]
        rfl
      · rw [hupdated]
        rfl

theorem save_version_grows_iff_shop :
    let calls := [(⟨0, 0⟩, StoreCall.save plain), (⟨1, 0⟩, .save plain)]
    (∃ r stored, importProject ⟨0, 0⟩ (versionText 3) = .ok r ∧
      (blankStore.save ⟨0, 0⟩ r).1 = .ok stored ∧ r.version < stored.version) ∧
    blankStore.packing.Lossless ∧
    (∀ reached c, reached ++ [c] <+: calls → KeepsEntry "p" (blankStore.run reached).2 c.1 c.2) ∧
    versionsOf "p" (blankStore.run calls).1 = [1, 2] ∧
      (versionsOf "p" (blankStore.run calls).1).Pairwise (· < ·) := by
  intro calls
  have hlossless : blankStore.packing.Lossless := Frame.packing_lossless
  obtain ⟨himported, hrun⟩ := save_version_grows_iff blankStore hlossless
  have hkeeps : ∀ reached c, reached ++ [c] <+: calls →
      KeepsEntry "p" (blankStore.run reached).2 c.1 c.2 := by
    intro reached c hreached
    have hplain : plain.version < wordLimit := by decide
    rcases reached with - | ⟨first, - | ⟨second, rest⟩⟩
    · obtain ⟨rfl, -⟩ := List.cons_prefix_cons.1 hreached
      exact keepsEntry_of_leavesFresh hplain (by decide +kernel)
    · obtain ⟨rfl, hsecond⟩ := List.cons_prefix_cons.1 hreached
      obtain ⟨rfl, -⟩ := List.cons_prefix_cons.1 hsecond
      exact keepsEntry_of_leavesFresh hplain (by decide +kernel)
    · have hlength := hreached.length_le
      simp [calls] at hlength
  refine ⟨?_, hlossless, hkeeps, by decide +kernel, hrun "p" calls hkeeps⟩
  obtain ⟨r, himport, hr⟩ := ok_of_any (r := importProject ⟨0, 0⟩ (versionText 3))
    (p := fun r => r.version == 3 && (blankStore.save ⟨0, 0⟩ r).1.toOption.any fun stored =>
      stored.version == 4) (by decide +kernel)
  rw [Bool.and_eq_true, beq_iff_eq] at hr
  obtain ⟨stored, hsave, hstored⟩ := ok_of_any hr.2
  obtain ⟨before, -, -, hversion, hgrows, -⟩ :=
    himported ⟨0, 0⟩ ⟨0, 0⟩ (versionText 3) r stored himport hsave
  refine ⟨r, stored, himport, hsave, (hgrows.2 ?_).1⟩
  by_contra hfull
  rw [if_neg hfull] at hversion
  rw [hversion] at hstored
  cases hstored

/-- After the last version that fits 64 bits comes zero. -/
theorem last_version_restarts :
    ∃ r stored, importProject ⟨0, 0⟩ (versionText 18446744073709551615) = .ok r ∧
      r.version = 18446744073709551615 ∧ (blankStore.save ⟨0, 0⟩ r).1 = .ok stored ∧
      stored.version = 0 := by
  obtain ⟨r, himport, hr⟩ := ok_of_any (r := importProject ⟨0, 0⟩
    (versionText 18446744073709551615)) (p := fun r => r.version == 18446744073709551615 &&
      (blankStore.save ⟨0, 0⟩ r).1.toOption.any fun stored => stored.version == 0)
      (by decide +kernel)
  rw [Bool.and_eq_true, beq_iff_eq] at hr
  obtain ⟨stored, hsave, hstored⟩ := ok_of_any hr.2
  exact ⟨r, stored, himport, hr.1, hsave, beq_iff_eq.1 hstored⟩

end ProjectStore

end PageBuilder
