import PageBuilder.Proofs.Store.Room

/-!
The limits of a store. Whatever its backend held before, a record that was saved stands among no
more records and bytes than the limits allow, or alone; and the counts by which the loop makes room
never go below zero. A save fails only for a record that is larger than the quota of the backend, and
leaves what is stored under its id.
-/

namespace PageBuilder

/-- A difference, if it is not negative. -/
def minus? (a b : Nat) : Option Nat := if b ≤ a then some (a - b) else none

/-- The loop that makes room, over the entries that are left. It goes by the bytes of these, by the
number of all entries and by how many of them went before, and ends without a result where a
difference of these would be negative. -/
def evictChecked? (c : StoreConfig) (size count : Nat) :
    Nat → Nat → List StoredEntry → Option (List StoredEntry)
  | _, _, [] => some []
  | usage, evicted, e :: rest => do
    let left ← minus? count evicted
    if c.byteBudget < usage + size || c.maxRecords ≤ left then
      let usage ← minus? usage e.bytes
      let gone ← evictChecked? c size count usage (evicted + 1) rest
      return e :: gone
    else return []

/-- Along the loop the bytes and the number are those of the entries that are left. -/
theorem evictChecked?_eq (c : StoreConfig) (size count evicted : Nat) (es : List StoredEntry)
    (hcount : count = evicted + es.length) :
    evictChecked? c size count (total (es.map StoredEntry.bytes)) evicted es =
      some (evictions c size (total (es.map StoredEntry.bytes)) es.length es) := by
  induction es generalizing evicted with
  | nil => rfl
  | cons e rest ih =>
    -- the counts fit the entries that are left, so no difference is negative
    have hleft : minus? count evicted = some (rest.length + 1) := by
      unfold minus?
      rw [List.length_cons] at hcount
      rw [if_pos (by omega)]
      congr 1
      omega
    have hbytes : minus? (total ((e :: rest).map StoredEntry.bytes)) e.bytes =
        some (total (rest.map StoredEntry.bytes)) := by
      unfold minus?
      rw [List.map_cons, total, if_pos (Nat.le_add_right _ _), Nat.add_sub_cancel_left]
    have hrest := ih (evicted + 1) (by rw [hcount, List.length_cons]; omega)
    rw [evictChecked?, evictions, hleft, hbytes, List.length_cons, Nat.add_sub_cancel]
    have hsub : total ((e :: rest).map StoredEntry.bytes) - e.bytes =
        total (rest.map StoredEntry.bytes) := by
      rw [List.map_cons, total, Nat.add_sub_cancel_left]
    rw [hsub]
    by_cases hover : (decide (c.byteBudget < total ((e :: rest).map StoredEntry.bytes) + size) ||
        decide (c.maxRecords ≤ rest.length + 1)) = true
    · rw [if_pos hover]
      simp only [Option.bind_eq_bind, Option.bind_some, if_pos hover, hrest]
      rfl
    · rw [if_neg hover]
      simp only [Option.bind_eq_bind, Option.bind_some, if_neg hover]
      rfl

namespace ProjectStore

variable (s : ProjectStore MemoryBackend) (now : Instant) (r : ProjectRecord)

/-- Saving succeeds exactly if the record fits the quota alone. -/
theorem save_eq_ok_iff {stored : ProjectRecord} :
    (s.save now r).1 = .ok stored ↔
      s.backend.quota.all ((s.encoded (s.written now r)).size ≤ ·) = true ∧
        stored = s.written now r := by
  obtain ⟨gone, -, ⟨hquota, hsave, -⟩ | ⟨hquota, hsave⟩⟩ := s.save_spec now r
  · rw [hsave, hquota]
    simp only [Except.ok.injEq, true_and]
    exact eq_comm
  · rw [hsave, hquota]
    simp

/-- A save that succeeds leaves no more entries than the limit, or only its own, and no more bytes
than the budget, or only its own; and the loop that makes room for it never subtracts more than
there is. -/
theorem save_keeps_limits :
    (∀ stored, (s.save now r).1 = .ok stored →
      (s.save now r).2.backend.entries.size ≤ max 1 s.config.maxRecords ∧
      (totalSize (s.save now r).2.backend.entries ≤ s.config.byteBudget ∨
        (s.save now r).2.backend.entries.keys = [stored.id])) ∧
    ∀ id size, ∃ others, otherEntries s.packing s.backend now id = .ok others ∧
      evictChecked? s.config size others.length (total (others.map StoredEntry.bytes)) 0 others =
        some (evictions s.config size (total (others.map StoredEntry.bytes)) others.length
          others) := by
  refine ⟨fun stored hok => ?_, fun id size => ?_⟩
  · obtain ⟨-, rfl⟩ := (s.save_eq_ok_iff now r).1 hok
    obtain ⟨gone, -, ⟨-, hsave, hfits⟩ | ⟨-, hsave⟩⟩ := s.save_spec now r
    · let others := (s.backend.entries.without gone).erase (s.written now r).id
      have hsize : (s.save now r).2.backend.entries.size = others.size + 1 := by
        rw [hsave]
        exact size_insert _ _ _
      have hbytes : (s.save now r).2.backend.entries.keys.Perm
          ((s.written now r).id :: others.keys) := by
        rw [hsave]
        exact (SortedMap.entries_insert_perm _ _ _).map Prod.fst
      have htotal : totalSize (s.save now r).2.backend.entries =
          (s.encoded (s.written now r)).size + totalSize others := by
        rw [hsave]
        exact totalSize_insert _ _ _
      rcases hfits with hempty | ⟨hcount, hbudget⟩
      · -- the record is alone: one entry, whatever the limits say
        have hnone : others.size = 0 := List.length_eq_zero_iff.2 hempty
        refine ⟨by omega, Or.inr (List.perm_singleton.1 ?_)⟩
        have hkeys : others.keys = [] := List.map_eq_nil_iff.2 hempty
        rwa [hkeys] at hbytes
      · have hroom : others.size < s.config.maxRecords := hcount
        have hleft : totalSize others + (s.encoded (s.written now r)).size ≤ s.config.byteBudget :=
          hbudget
        exact ⟨by omega, Or.inl (by omega)⟩
    · rw [hsave] at hok
      cases hok
  · refine ⟨candidates s.packing s.backend now id, otherEntries_eq _ _ _ _, ?_⟩
    exact evictChecked?_eq s.config size _ 0 _ (Nat.zero_add _).symm

/-- A store that may hold no record, with two values that are none. Nothing is compressed at its
level. -/
def crowded : ProjectStore MemoryBackend where
  backend := ⟨.ofList [("a", .text "spoiled"), ("b", .text "torn")], none⟩
  config := { byteBudget := 10, maxRecords := 0, compressionLevel := -50 }
  packing := Frame.packing

theorem save_keeps_limits_crowded :
    let saved := crowded.save ⟨0, 0⟩ { ProjectRecord.new "Shop" .empty ⟨0, 0⟩ with id := "p" }
    saved.1.toOption.map ProjectRecord.id = some "p" ∧ saved.2.backend.entries.size ≤ 1 ∧
      (totalSize saved.2.backend.entries ≤ 10 ∨ saved.2.backend.entries.keys = ["p"]) := by
  let shop : ProjectRecord := { ProjectRecord.new "Shop" .empty ⟨0, 0⟩ with id := "p" }
  have hok : (crowded.save ⟨0, 0⟩ shop).1 = .ok (crowded.written ⟨0, 0⟩ shop) :=
    (crowded.save_eq_ok_iff ⟨0, 0⟩ shop).2 ⟨rfl, rfl⟩
  obtain ⟨hcount, hbytes⟩ := (save_keeps_limits crowded ⟨0, 0⟩ shop).1 _ hok
  have hid : (crowded.written ⟨0, 0⟩ shop).id = "p" := by decide
  refine ⟨?_, hcount, hbytes⟩
  change (crowded.save ⟨0, 0⟩ shop).1.toOption.map ProjectRecord.id = some "p"
  rw [hok]
  exact congrArg some hid

/-- A record that fits the quota alone is saved, whatever else is stored. A larger one is refused
with its id and its size, and what is stored under its id stays as it is. -/
theorem save_fails_only_alone :
    ((∀ quota, s.backend.quota = some quota → (s.encoded (s.written now r)).size ≤ quota) →
      (s.save now r).1 = .ok (s.written now r) ∧
      (s.save now r).2.backend.entries.get? (s.written now r).id =
        some (s.encoded (s.written now r))) ∧
    ∀ quota, s.backend.quota = some quota → quota < (s.encoded (s.written now r)).size →
      (s.save now r).1 =
        .error (.capacityExhausted (s.written now r).id (s.encoded (s.written now r)).size) ∧
      (s.save now r).2.backend.entries.get? (s.written now r).id =
        s.backend.entries.get? (s.written now r).id := by
  obtain ⟨gone, hgone, ⟨hfits, hsave, -⟩ | ⟨hfull, hsave⟩⟩ := s.save_spec now r
  · refine ⟨fun _ => ?_, fun quota hquota hlarge => ?_⟩
    · rw [hsave]
      exact ⟨rfl, SortedMap.get?_insert_self _ _ _⟩
    · rw [hquota, Option.all_some, decide_eq_true_eq] at hfits
      exact absurd hlarge (Nat.not_lt.2 hfits)
  · refine ⟨fun hall => ?_, fun quota hquota hlarge => ?_⟩
    · -- only a quota refuses a value
      cases hquota : s.backend.quota with
      | none =>
        rw [hquota] at hfull
        cases hfull
      | some quota =>
        rw [hquota, Option.all_some, decide_eq_false_iff_not] at hfull
        exact absurd (hall quota hquota) hfull
    · rw [hsave]
      refine ⟨rfl, ?_⟩
      exact (SortedMap.get?_without _ _ _).trans (if_neg hgone)

/-- A backend of ten bytes, with an unreadable value under the id of a record. -/
def brimful : ProjectStore MemoryBackend where
  backend := ⟨.ofList [("a", .text "four"), ("p", .text "torn")], some 10⟩
  config := { compressionLevel := -50 }
  packing := Frame.packing

theorem save_fails_only_alone_brimful :
    let saved := brimful.save ⟨0, 0⟩ { ProjectRecord.new "Shop" .empty ⟨0, 0⟩ with id := "p" }
    10 < (brimful.encoded (brimful.written ⟨0, 0⟩
      { ProjectRecord.new "Shop" .empty ⟨0, 0⟩ with id := "p" })).size ∧
      saved.1.isOk = false ∧ saved.2.backend.entries.get? "p" = some (.text "torn") := by
  let shop : ProjectRecord := { ProjectRecord.new "Shop" .empty ⟨0, 0⟩ with id := "p" }
  have hlarge : 10 < (brimful.encoded (brimful.written ⟨0, 0⟩ shop)).size := by decide +kernel
  obtain ⟨hfails, hstays⟩ := (save_fails_only_alone brimful ⟨0, 0⟩ shop).2 10 rfl hlarge
  have hid : (brimful.written ⟨0, 0⟩ shop).id = "p" := by decide
  rw [hid] at hstays
  refine ⟨hlarge, ?_, hstays.trans (by decide)⟩
  change (brimful.save ⟨0, 0⟩ shop).1.isOk = false
  rw [hfails]
  rfl

end ProjectStore

end PageBuilder
