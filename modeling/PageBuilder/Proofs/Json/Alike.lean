import PageBuilder.Json.Fields
import PageBuilder.Proofs.Json.Text
import PageBuilder.Proofs.SortedMap

/-!
Values that say the same. A reader may meet the members of an object in any order and numbers that
are only equal as numbers; none of this matters to the fields it reads and to the maps it makes.
-/

namespace PageBuilder

namespace SortedMap

variable {α : Type}

/-- Two maps with the same keys are equal when the values at each key are. -/
theorem sameBy_of_lookup {eq : α → α → Bool} {m p : SortedMap α} (hkeys : m.keys.Perm p.keys)
    (h : ∀ key value, (key, value) ∈ p.entries →
      ∃ other, m.get? key = some other ∧ eq other value = true) : m.sameBy eq p = true := by
  -- two sorted lists of the same keys are one list, so the entries pair up
  have hsame : m.keys = p.keys := by
    refine List.Perm.eq_of_pairwise (fun a b _ _ hab hba => ?_) (List.pairwise_map.2 m.ascending)
      (List.pairwise_map.2 p.ascending) hkeys
    exact absurd (String.lt_trans hab hba) (String.lt_irrefl _)
  have hsize : m.size = p.size := by
    have hlength := congrArg List.length hsame
    rwa [keys, keys, List.length_map, List.length_map] at hlength
  rw [sameBy, hsize, beq_self_eq_true, Bool.true_and, List.all_eq_true]
  intro e he
  obtain ⟨i, hi, rfl⟩ := List.mem_iff_getElem.1 he
  rw [List.length_zip] at hi
  have him : i < m.entries.length := by omega
  have hip : i < p.entries.length := by omega
  rw [List.getElem_zip]
  have hkey : m.entries[i].1 = p.entries[i].1 := by
    have hat := congrArg (fun keys => keys[i]?) hsame
    simpa [keys, him, hip] using hat
  have hvalue : m.get? p.entries[i].1 = some m.entries[i].2 := by
    rw [← hkey]
    exact get?_eq_some_iff.2 (List.getElem_mem him)
  obtain ⟨other, hother, heq⟩ := h p.entries[i].1 p.entries[i].2 (List.getElem_mem hip)
  rw [hvalue] at hother
  obtain rfl := Option.some.inj hother
  simp only [hkey, beq_self_eq_true, heq, Bool.and_self]

end SortedMap

namespace Json

mutual

/-- The first value says the same as the second one: numbers are equal as numbers, and members may
come in another order. -/
def Like : Json → Json → Prop
  | a, .num n => ∃ m, a = .num m ∧ m.same n = true
  | a, .arr bs => ∃ as, a = .arr as ∧ LikeItems as bs
  | a, .obj bs => ∃ as, a = .obj as ∧ DistinctKeys as ∧
      (as.map Prod.fst).Perm (bs.map Prod.fst) ∧ LikeMembers as bs
  | a, b => a = b

def LikeItems : List Json → List Json → Prop
  | as, [] => as = []
  | as, b :: bs => ∃ x rest, as = x :: rest ∧ Like x b ∧ LikeItems rest bs

/-- Each of the second members has one like it under its key. -/
def LikeMembers : List (String × Json) → List (String × Json) → Prop
  | _, [] => True
  | as, (k, b) :: bs => (∃ x, as.lookup k = some x ∧ Like x b) ∧ LikeMembers as bs

end

theorem likeMembers_iff {as bs : List (String × Json)} :
    LikeMembers as bs ↔ ∀ key b, (key, b) ∈ bs → ∃ x, as.lookup key = some x ∧ x.Like b := by
  induction bs with
  | nil => simp [LikeMembers]
  | cons member bs ih =>
    rw [LikeMembers, ih]
    constructor
    · rintro ⟨hfirst, hrest⟩ key b hmem
      rcases List.mem_cons.1 hmem with heq | hmem
      · obtain ⟨rfl, rfl⟩ := Prod.mk.inj heq
        exact hfirst
      · exact hrest key b hmem
    · intro h
      refine ⟨h member.1 member.2 (List.mem_cons_self ..), ?_⟩
      intro key b hmem
      exact h key b (List.mem_cons_of_mem member hmem)

theorem membersThroughout_iff {number : Number → Prop} {object : List (String × Json) → Prop}
    {members : List (String × Json)} :
    MembersThroughout number object members ↔
      ∀ m ∈ members, m.2.Throughout number object := by
  induction members with
  | nil => simp [MembersThroughout]
  | cons m rest ih => rw [MembersThroughout, ih, List.forall_mem_cons]

theorem itemsThroughout_iff {number : Number → Prop} {object : List (String × Json) → Prop}
    {items : List Json} :
    ItemsThroughout number object items ↔ ∀ j ∈ items, j.Throughout number object := by
  induction items with
  | nil => simp [ItemsThroughout]
  | cons j rest ih => rw [ItemsThroughout, ih, List.forall_mem_cons]

/-- Every number reads back, and no object has a key twice. -/
abbrev Writable (j : Json) : Prop := j.Throughout Number.ReadsBack DistinctKeys

/-- Every number reads back, and the members of every object are in order. -/
abbrev Orderly (j : Json) : Prop := j.Throughout Number.ReadsBack Ascending

mutual

theorem Orderly.writable {j : Json} (h : j.Orderly) : j.Writable := by
  cases j with
  | arr items => exact itemsOrderly_writable h
  | obj members => exact ⟨h.1.distinctKeys, membersOrderly_writable h.2⟩
  | num n => exact h
  | _ => trivial
termination_by structural j

theorem itemsOrderly_writable {items : List Json}
    (h : ItemsThroughout Number.ReadsBack Ascending items) :
    ItemsThroughout Number.ReadsBack DistinctKeys items := by
  cases items with
  | nil => trivial
  | cons j rest => exact ⟨Orderly.writable h.1, itemsOrderly_writable h.2⟩
termination_by structural items

theorem membersOrderly_writable {members : List (String × Json)}
    (h : MembersThroughout Number.ReadsBack Ascending members) :
    MembersThroughout Number.ReadsBack DistinctKeys members := by
  cases members with
  | nil => trivial
  | cons m rest => exact ⟨Orderly.writable h.1, membersOrderly_writable h.2⟩
termination_by structural members

end

section Like

variable {number other : Number → Prop} {object : List (String × Json) → Prop}

theorem sameMembers_keys (as bs : List (String × Json)) (h : sameMembers as bs = true) :
    as.map Prod.fst = bs.map Prod.fst := by
  induction bs generalizing as with
  | nil => cases as <;> simp [sameMembers] at h ⊢
  | cons b bs ih =>
    cases as with
    | nil => simp [sameMembers] at h
    | cons a as =>
      rw [sameMembers, Bool.and_eq_true, Bool.and_eq_true, beq_iff_eq] at h
      rw [List.map_cons, List.map_cons, h.1.1, ih as h.2]

mutual

/-- Equal values say the same, if no object has a key twice. -/
theorem like_of_same (a b : Json) (h : a.same b = true) (hb : b.Throughout number DistinctKeys) :
    a.Like b := by
  cases b with
  | arr bs =>
    cases a with
    | arr as => exact ⟨as, rfl, likeItems_of_same as bs h hb⟩
    | _ => simp [same] at h
  | obj bs =>
    cases a with
    | obj as =>
      have hkeys := sameMembers_keys as bs h
      have hdistinct : DistinctKeys as := by
        rw [DistinctKeys, hkeys]
        exact hb.1
      exact ⟨as, rfl, hdistinct, by rw [hkeys],
        likeMembers_of_same as as bs (fun _ he => he) hdistinct h hb.2⟩
    | _ => simp [same] at h
  | num n =>
    cases a with
    | num m => exact ⟨m, rfl, h⟩
    | _ => simp [same] at h
  | _ => cases a <;> simp [same, Like] at h ⊢ <;> exact h
termination_by structural b

theorem likeItems_of_same (as bs : List Json) (h : sameItems as bs = true)
    (hb : ItemsThroughout number DistinctKeys bs) : LikeItems as bs := by
  cases bs with
  | nil => cases as <;> simp [sameItems, LikeItems] at h ⊢
  | cons b bs =>
    cases as with
    | nil => simp [sameItems] at h
    | cons a as =>
      rw [sameItems, Bool.and_eq_true] at h
      exact ⟨a, as, rfl, like_of_same a b h.1 hb.1, likeItems_of_same as bs h.2 hb.2⟩
termination_by structural bs

theorem likeMembers_of_same (all as bs : List (String × Json)) (hsub : as ⊆ all)
    (hall : DistinctKeys all) (h : sameMembers as bs = true)
    (hb : MembersThroughout number DistinctKeys bs) : LikeMembers all bs := by
  cases bs with
  | nil => simp [LikeMembers]
  | cons b bs =>
    cases as with
    | nil => simp [sameMembers] at h
    | cons a as =>
      rw [sameMembers, Bool.and_eq_true, Bool.and_eq_true, beq_iff_eq] at h
      obtain ⟨hmem, hrest⟩ := List.cons_subset.1 hsub
      have hlookup : all.lookup b.1 = some a.2 := by
        rw [← h.1.1]
        exact lookup_of_mem hall hmem
      exact ⟨⟨a.2, hlookup, like_of_same a.2 b.2 h.1.2 hb.1⟩,
        likeMembers_of_same all as bs hrest hall h.2 hb.2⟩
termination_by structural bs

end

theorem canonicalItems_eq (items : List Json) :
    canonicalItems items = items.map Json.canonical := by
  induction items with
  | nil => rfl
  | cons j rest ih =>
    rw [canonicalItems, ih]
    rfl

theorem canonicalMembers_eq (members : List (String × Json)) :
    canonicalMembers members = members.map fun m => (m.1, m.2.canonical) := by
  induction members with
  | nil => rfl
  | cons m rest ih =>
    rw [canonicalMembers, ih]
    rfl

/-- The members of an object with distinct keys, each in canonical form, are those of its map. -/
theorem map_perm {as : List (String × Json)} (h : DistinctKeys as) :
    (SortedMap.ofList (canonicalMembers as)).entries.Perm
      (as.map fun m => (m.1, m.2.canonical)) := by
  rw [canonicalMembers_eq]
  apply SortedMap.ofList_perm
  rwa [DistinctKeys, List.map_map]

theorem map_keys {as : List (String × Json)} (h : DistinctKeys as) :
    (SortedMap.ofList (canonicalMembers as)).keys.Perm (as.map Prod.fst) := by
  have hkeys := (map_perm h).map Prod.fst
  rwa [List.map_map] at hkeys

theorem map_get? {as : List (String × Json)} (h : DistinctKeys as) {key : String} {x : Json}
    (hx : as.lookup key = some x) :
    (SortedMap.ofList (canonicalMembers as)).get? key = some x.canonical := by
  rw [SortedMap.get?_eq_some_iff, (map_perm h).mem_iff]
  exact List.mem_map.2 ⟨(key, x), mem_of_lookup hx, rfl⟩

mutual

/-- Putting the members in order changes nothing in what a value says. -/
theorem Like.canonical {a b : Json} (h : a.Like b) : a.canonical.Like b := by
  cases b with
  | arr bs =>
    obtain ⟨as, rfl, has⟩ := h
    exact ⟨canonicalItems as, rfl, LikeItems.canonical has⟩
  | obj bs =>
    obtain ⟨as, rfl, hdistinct, hkeys, has⟩ := h
    refine ⟨_, rfl, SortedMap.keys_nodup _, (map_keys hdistinct).trans hkeys, ?_⟩
    exact LikeMembers.canonical hdistinct has
  | num n =>
    obtain ⟨m, rfl, hm⟩ := h
    exact ⟨m, rfl, hm⟩
  | _ =>
    obtain rfl := h
    rfl
termination_by structural b

theorem LikeItems.canonical {as bs : List Json} (h : LikeItems as bs) :
    LikeItems (canonicalItems as) bs := by
  cases bs with
  | nil =>
    obtain rfl := h
    rfl
  | cons b bs =>
    obtain ⟨x, rest, rfl, hx, hrest⟩ := h
    exact ⟨x.canonical, canonicalItems rest, rfl, hx.canonical, LikeItems.canonical hrest⟩
termination_by structural bs

theorem LikeMembers.canonical {as bs : List (String × Json)} (hdistinct : DistinctKeys as)
    (h : LikeMembers as bs) :
    LikeMembers (SortedMap.ofList (canonicalMembers as)).entries bs := by
  cases bs with
  | nil => trivial
  | cons b bs =>
    obtain ⟨⟨x, hlookup, hx⟩, hrest⟩ := h
    exact ⟨⟨x.canonical, map_get? hdistinct hlookup, hx.canonical⟩,
      LikeMembers.canonical hdistinct hrest⟩
termination_by structural bs

end

mutual

/-- The objects of a canonical value list their members in order. -/
theorem canonical_ascending (j : Json) :
    j.canonical.Throughout (fun _ => True) Ascending := by
  cases j with
  | arr items => exact canonicalItems_ascending items
  | obj members =>
    refine ⟨SortedMap.ascending _, ?_⟩
    rw [membersThroughout_iff]
    intro m hm
    exact canonicalMembers_ascending members m (SortedMap.mem_of_mem_ofList hm)
  | _ => trivial
termination_by structural j

theorem canonicalItems_ascending (items : List Json) :
    ItemsThroughout (fun _ => True) Ascending (canonicalItems items) := by
  cases items with
  | nil => trivial
  | cons j rest => exact ⟨canonical_ascending j, canonicalItems_ascending rest⟩
termination_by structural items

theorem canonicalMembers_ascending (members : List (String × Json)) :
    ∀ m ∈ canonicalMembers members, m.2.Throughout (fun _ => True) Ascending := by
  cases members with
  | nil =>
    intro m hm
    cases hm
  | cons m rest =>
    exact List.forall_mem_cons.2 ⟨canonical_ascending m.2, canonicalMembers_ascending rest⟩
termination_by structural members

end

theorem sameMembers_of_sameBy {as bs : List (String × Json)} (hlength : as.length = bs.length)
    (h : ∀ e ∈ as.zip bs, (e.1.1 == e.2.1 && e.1.2.same e.2.2) = true) :
    sameMembers as bs = true := by
  induction as generalizing bs with
  | nil =>
    cases bs with
    | nil => rfl
    | cons b bs => cases hlength
  | cons a as ih =>
    cases bs with
    | nil => cases hlength
    | cons b bs =>
      obtain ⟨hfirst, hrest⟩ := List.forall_mem_cons.1 h
      rw [sameMembers, hfirst, Bool.true_and]
      exact ih (Nat.succ.inj hlength) hrest

theorem Like.str? {a : Json} {s : String} (h : a.Like (.str s)) : a.str? = some s := by
  obtain rfl : a = .str s := h
  rfl

theorem Like.bool? {a : Json} {b : Bool} (h : a.Like (.bool b)) : a.bool? = some b := by
  obtain rfl : a = .bool b := h
  rfl

theorem Like.of_null {b : Json} (h : Json.null.Like b) : b = .null := by
  cases b with
  | null => rfl
  | num n =>
    obtain ⟨m, hm, -⟩ := h
    cases hm
  | arr bs =>
    obtain ⟨as, has, -⟩ := h
    cases has
  | obj bs =>
    obtain ⟨as, has, -⟩ := h
    cases has
  | _ => cases h

mutual

/-- Of two values that say the same, with all members in order, one equals the other. -/
theorem Like.same {a b : Json} (h : a.Like b) (ha : a.Throughout number Ascending)
    (hb : b.Throughout other Ascending) : a.same b = true := by
  cases b with
  | arr bs =>
    obtain ⟨as, rfl, has⟩ := h
    exact LikeItems.same has ha hb
  | obj bs =>
    obtain ⟨as, rfl, -, hkeys, has⟩ := h
    have hvalues := LikeMembers.same has (membersThroughout_iff.1 ha.2) hb.2
    have hmap : SortedMap.sameBy Json.same ⟨as, ha.1⟩ ⟨bs, hb.1⟩ = true :=
      SortedMap.sameBy_of_lookup hkeys hvalues
    rw [SortedMap.sameBy, Bool.and_eq_true, beq_iff_eq, List.all_eq_true] at hmap
    exact sameMembers_of_sameBy hmap.1 hmap.2
  | num n =>
    obtain ⟨m, rfl, hm⟩ := h
    exact hm
  | _ =>
    obtain rfl := h
    simp [Json.same]
termination_by structural b

theorem LikeItems.same {as bs : List Json} (h : LikeItems as bs)
    (ha : ItemsThroughout number Ascending as) (hb : ItemsThroughout other Ascending bs) :
    sameItems as bs = true := by
  cases bs with
  | nil =>
    obtain rfl := h
    rfl
  | cons b bs =>
    obtain ⟨x, rest, rfl, hx, hrest⟩ := h
    rw [sameItems, hx.same ha.1 hb.1, LikeItems.same hrest ha.2 hb.2, Bool.and_self]
termination_by structural bs

theorem LikeMembers.same {as bs : List (String × Json)} (h : LikeMembers as bs)
    (ha : ∀ m ∈ as, m.2.Throughout number Ascending)
    (hb : MembersThroughout other Ascending bs) :
    ∀ key b, (key, b) ∈ bs → ∃ x, as.lookup key = some x ∧ x.same b = true := by
  cases bs with
  | nil =>
    intro key b hmem
    cases hmem
  | cons member bs =>
    obtain ⟨⟨x, hlookup, hx⟩, hrest⟩ := h
    intro key b hmem
    rcases List.mem_cons.1 hmem with heq | hmem
    · obtain ⟨rfl, rfl⟩ := Prod.mk.inj heq
      exact ⟨x, hlookup, hx.same (ha (member.1, x) (mem_of_lookup hlookup)) hb.1⟩
    · exact LikeMembers.same hrest ha hb.2 key b hmem
termination_by structural bs

end

/-- A map whose values are in order is read back. -/
theorem Like.map {a : Json} {m : SortedMap Json} (h : a.Like (.ofMap m))
    (hm : ∀ e ∈ m.entries, e.2.Throughout number Ascending) :
    ∃ p, a.map? = some p ∧ p.sameBy Json.same m = true := by
  obtain ⟨as, rfl, hdistinct, hkeys, has⟩ := h
  have hordered : (Json.obj as).canonical.Throughout (fun _ => True) Ascending :=
    canonical_ascending (.obj as)
  have hvalues := LikeMembers.same (LikeMembers.canonical hdistinct has)
    (membersThroughout_iff.1 hordered.2) (membersThroughout_iff.2 hm)
  exact ⟨_, rfl, SortedMap.sameBy_of_lookup ((map_keys hdistinct).trans hkeys) hvalues⟩

end Like

section Fields

/-- The fields that a record is read from, by name, say the same as the members of an object. -/
structure Fields.Hold (f : Fields) (names : List String) (bs : List (String × Json)) : Prop where
  byName : f.listed = false
  present : ∀ name b, name ∈ names → (name, b) ∈ bs →
    ∃ x, f.values.lookup name = some x ∧ x.Like b
  absent : ∀ name, name ∉ bs.map Prod.fst → f.values.lookup name = none

theorem distinctNames_of_distinctKeys {members : List (String × Json)} (h : DistinctKeys members) :
    distinctNames members = true := by
  induction members with
  | nil => rfl
  | cons m rest ih =>
    obtain ⟨hfresh, hrest⟩ := List.nodup_cons.1 h
    have hnone : (rest.any fun x => x.1 == m.1) = false := by
      rw [List.any_eq_false]
      intro x hx hkey
      exact hfresh (eq_of_beq hkey ▸ List.mem_map_of_mem hx)
    rw [distinctNames, hnone, ih hrest]
    rfl

/-- A record's object gives its fields, whatever else it holds. -/
theorem namedFields?_hold {as bs : List (String × Json)} (names : List String)
    (h : (Json.obj as).Like (.obj bs)) :
    ∃ f, namedFields? names as = some f ∧ f.Hold names bs := by
  obtain ⟨as, ⟨⟩, hdistinct, hkeys, has⟩ := h
  have hknown : DistinctKeys (as.filter fun m => names.contains m.1) :=
    hdistinct.sublist (List.filter_sublist.map Prod.fst)
  refine ⟨⟨false, as.filter fun m => names.contains m.1⟩, ?_, rfl, ?_, ?_⟩
  · unfold namedFields?
    dsimp only
    rw [if_pos (distinctNames_of_distinctKeys hknown)]
  · intro name b hname hmem
    obtain ⟨x, hx, hlike⟩ := likeMembers_iff.1 has name b hmem
    refine ⟨x, lookup_of_mem hknown (List.mem_filter.2 ⟨mem_of_lookup hx, ?_⟩), hlike⟩
    exact List.contains_iff_mem.2 hname
  · intro name hname
    apply lookup_eq_none
    intro hmem
    have hall := (List.filter_sublist.map Prod.fst).subset hmem
    exact hname (hkeys.mem_iff.1 hall)

theorem Like.fields {a : Json} {bs : List (String × Json)} (names : List String)
    (h : a.Like (.obj bs)) : ∃ f, a.fields? names = some f ∧ f.Hold names bs := by
  obtain ⟨as, rfl, hrest⟩ := h
  exact namedFields?_hold names ⟨as, rfl, hrest⟩

namespace Fields.Hold

variable {α : Type} {f : Fields} {names : List String} {bs : List (String × Json)} {b : Json}
  {read : Json → Option α} {P : α → Prop} {v : α}

theorem required (h : f.Hold names bs) (name : String) (hname : name ∈ names) (hb : (name, b) ∈ bs)
    (hread : ∀ x, x.Like b → ∃ v, read x = some v ∧ P v) :
    ∃ v, f.required name read = some v ∧ P v := by
  obtain ⟨x, hx, hlike⟩ := h.present name b hname hb
  obtain ⟨v, hv, hP⟩ := hread x hlike
  exact ⟨v, by rw [Fields.required, hx, Option.bind_some, hv], hP⟩

theorem required_eq (h : f.Hold names bs) (name : String) (hname : name ∈ names)
    (hb : (name, b) ∈ bs) (hread : ∀ x, x.Like b → read x = some v) :
    f.required name read = some v := by
  obtain ⟨x, hx, hlike⟩ := h.present name b hname hb
  rw [Fields.required, hx, Option.bind_some, hread x hlike]

theorem defaulted (h : f.Hold names bs) (name : String) (default : α) (hname : name ∈ names)
    (hb : (name, b) ∈ bs) (hread : ∀ x, x.Like b → ∃ v, read x = some v ∧ P v) :
    ∃ v, f.defaulted name default read = some v ∧ P v := by
  obtain ⟨x, hx, hlike⟩ := h.present name b hname hb
  obtain ⟨v, hv, hP⟩ := hread x hlike
  exact ⟨v, by simp only [Fields.defaulted, hx, hv], hP⟩

theorem defaulted_eq (h : f.Hold names bs) (name : String) (default : α) (hname : name ∈ names)
    (hb : (name, b) ∈ bs) (hread : ∀ x, x.Like b → read x = some v) :
    f.defaulted name default read = some v := by
  obtain ⟨x, hx, hlike⟩ := h.present name b hname hb
  simp only [Fields.defaulted, hx, hread x hlike]

theorem defaulted_absent (h : f.Hold names bs) (name : String) (default : α)
    (hname : name ∉ bs.map Prod.fst) :
    f.defaulted name default read = some default := by
  rw [Fields.defaulted, h.absent name hname]

/-- A field that may be missing is read when it is there; its value is not `null`. -/
theorem optionalEnd (h : f.Hold names bs) (name : String) (hname : name ∈ names)
    (hb : (name, b) ∈ bs) (hnull : b ≠ .null) (hread : ∀ x, x.Like b → ∃ v, read x = some v ∧ P v) :
    ∃ v, f.optionalEnd name read = some (some v) ∧ P v := by
  obtain ⟨x, hx, hlike⟩ := h.present name b hname hb
  obtain ⟨v, hv, hP⟩ := hread x hlike
  refine ⟨v, ?_, hP⟩
  cases x with
  | null => exact absurd hlike.of_null hnull
  | _ => simp only [Fields.optionalEnd, hx, hv, Option.map_some]

theorem optionalEnd_null (h : f.Hold names bs) (name : String) (hname : name ∈ names)
    (hb : (name, .null) ∈ bs) : f.optionalEnd name read = some none := by
  obtain ⟨x, hx, rfl⟩ := h.present name .null hname hb
  rw [Fields.optionalEnd, hx]

/-- Fields that come by name may be missing. -/
theorem optional_eq (h : f.Hold names bs) (name : String) :
    f.optional name read = f.optionalEnd name read := by
  simp only [Fields.optional, Fields.optionalEnd, h.byName, Bool.false_eq_true, if_false]

theorem optionalEnd_absent (h : f.Hold names bs) (name : String) (hname : name ∉ bs.map Prod.fst) :
    f.optionalEnd name read = some none := by
  rw [Fields.optionalEnd, h.absent name hname]

end Fields.Hold

end Fields

end Json

end PageBuilder
