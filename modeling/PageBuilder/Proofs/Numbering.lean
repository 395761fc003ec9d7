import PageBuilder.IdSource
import Mathlib.Tactic.Common
import Mathlib.Data.List.Nodup

/-!
Numbered ids. Different numbers make different ids, reading an id gives its number back, and a
source that has not run out hands out the ids of the numbers that follow. An id that a source has
been moved past never comes from it again.
-/

namespace PageBuilder

theorem toString_injective {m n : Nat} (h : toString m = toString n) : m = n := by
  have hdigits := congrArg (fun s : String => Nat.ofDigitChars 10 s.toList 0) h
  simpa using hdigits

namespace IdSource

theorem idOf_injective (seed : String) {m n : Nat} (h : idOf seed m = idOf seed n) : m = n := by
  have hchars := congrArg String.toList h
  simp only [idOf, String.toList_append] at hchars
  exact toString_injective (String.toList_inj.1 (List.append_cancel_left hchars))

theorem dash_mem_idOf (seed : String) (n : Nat) : '-' ∈ (idOf seed n).toList := by
  simp [idOf]

theorem digitsValue_toDigits (n : Nat) : digitsValue (Nat.toDigits 10 n) = n := by
  have hvalue := Nat.ofDigitChars_ten_toDigits (n := n)
  rw [Nat.ofDigitChars_eq_foldl] at hvalue
  unfold digitsValue
  simpa only [Nat.mul_comm 10] using hvalue

/-- Digits alone are read as their value, if 64 bits hold it. -/
theorem readNat64?_of_digits {ds : List Char} (hne : ds ≠ [])
    (hdigit : ∀ c ∈ ds, c.isDigit = true) (h : digitsValue ds < wordLimit) :
    readNat64? ds = some (digitsValue ds) := by
  unfold readNat64?
  split
  · -- a sign would be a digit
    have hsign : '+'.isDigit = true := hdigit '+' (List.mem_cons_self ..)
    cases hsign
  · have hall : ds.all Char.isDigit = true := List.all_eq_true.2 hdigit
    simp [hne, hall, h]

theorem readNat64?_toDigits {n : Nat} (h : n < wordLimit) :
    readNat64? (Nat.toDigits 10 n) = some n := by
  have hread : readNat64? (Nat.toDigits 10 n) = some (digitsValue (Nat.toDigits 10 n)) := by
    apply readNat64?_of_digits Nat.toDigits_ne_nil
    · intro c hc
      exact Nat.isDigit_of_mem_toDigits (by decide) (by decide) hc
    · rwa [digitsValue_toDigits]
  rwa [digitsValue_toDigits] at hread

theorem afterFront?_append (front rest : List Char) :
    afterFront? front (front ++ rest) = some rest := by
  unfold afterFront?
  simp

/-- The number of an id that the source makes is read back. -/
theorem numberOf?_idOf (seed : String) {n : Nat} (h : n < wordLimit) :
    numberOf? seed (idOf seed n) = some n := by
  have hchars : (idOf seed n).toList = seed.toList ++ ('-' :: Nat.toDigits 10 n) := by
    simp [idOf]
  have hdash : afterFront? ['-'] ('-' :: Nat.toDigits 10 n) = some (Nat.toDigits 10 n) :=
    afterFront?_append ['-'] _
  simp only [numberOf?, hchars, afterFront?_append, hdash, Option.bind_eq_bind, Option.bind_some,
    readNat64?_toDigits h]

/-- An id that the source would still hand out. -/
def Ahead (s : IdSource) (id : String) : Prop :=
  ∃ n, s.issued < n ∧ n < wordLimit ∧ id = idOf s.seed n

/-- A source that has moved on has less ahead of it. -/
theorem Ahead.mono {s t : IdSource} {id : String} (hseed : t.seed = s.seed)
    (hissued : s.issued ≤ t.issued) (h : t.Ahead id) : s.Ahead id := by
  obtain ⟨n, hn, hlimit, rfl⟩ := h
  exact ⟨n, by omega, hlimit, by rw [hseed]⟩

theorem not_ahead_of_no_dash {s : IdSource} {id : String} (h : '-' ∉ id.toList) : ¬ s.Ahead id := by
  rintro ⟨n, -, -, rfl⟩
  exact h (dash_mem_idOf s.seed n)

theorem pass_seed (s : IdSource) (id : String) : (s.pass id).seed = s.seed := by
  unfold pass
  split <;> rfl

theorem issued_le_pass (s : IdSource) (id : String) : s.issued ≤ (s.pass id).issued := by
  unfold pass
  split
  · exact Nat.le_max_left _ _
  · exact Nat.le_refl _

theorem not_ahead_pass (s : IdSource) (id : String) : ¬ (s.pass id).Ahead id := by
  rintro ⟨n, hn, hlimit, hid⟩
  rw [pass_seed] at hid
  subst hid
  simp only [pass, numberOf?_idOf s.seed hlimit] at hn
  have := Nat.le_max_right s.issued n
  omega

theorem advancePast_seed (s : IdSource) (ids : List String) :
    (s.advancePast ids).seed = s.seed := by
  unfold advancePast
  induction ids generalizing s with
  | nil => rfl
  | cons id rest ih => exact (ih (s.pass id)).trans (pass_seed s id)

theorem issued_le_advancePast (s : IdSource) (ids : List String) :
    s.issued ≤ (s.advancePast ids).issued := by
  unfold advancePast
  induction ids generalizing s with
  | nil => exact Nat.le_refl _
  | cons id rest ih => exact Nat.le_trans (issued_le_pass s id) (ih (s.pass id))

/-- None of the ids that the source has moved past is ahead of it. -/
theorem not_ahead_advancePast (s : IdSource) {ids : List String} {id : String} (h : id ∈ ids) :
    ¬ (s.advancePast ids).Ahead id := by
  induction ids generalizing s with
  | nil => cases h
  | cons first rest ih =>
    rcases List.mem_cons.1 h with rfl | h
    · intro hahead
      -- passing the rest only moves the source further
      exact not_ahead_pass s id
        (hahead.mono (advancePast_seed (s.pass id) rest) (issued_le_advancePast (s.pass id) rest))
    · exact ih (s.pass first) h

/-- The source after handing out `k` ids, as long as the numbers last. -/
def skip (s : IdSource) (k : Nat) : IdSource := ⟨s.seed, s.issued + k⟩

/-- The next `k` ids, as long as the numbers last. -/
def upcoming (s : IdSource) (k : Nat) : List String :=
  (List.range' (s.issued + 1) k).map (idOf s.seed)

theorem mem_upcoming {s : IdSource} {k : Nat} {id : String} :
    id ∈ s.upcoming k ↔ ∃ n, s.issued < n ∧ n ≤ s.issued + k ∧ id = idOf s.seed n := by
  simp only [upcoming, List.mem_map, List.mem_range'_1]
  constructor
  · rintro ⟨n, hn, rfl⟩
    exact ⟨n, by omega, by omega, rfl⟩
  · rintro ⟨n, hlow, hhigh, rfl⟩
    exact ⟨n, by omega, rfl⟩

theorem length_upcoming (s : IdSource) (k : Nat) : (s.upcoming k).length = k := by
  simp [upcoming]

theorem nodup_upcoming (s : IdSource) (k : Nat) : (s.upcoming k).Nodup := by
  unfold upcoming
  apply List.Nodup.map
  · intro m n h
    exact idOf_injective s.seed h
  · exact List.nodup_range'

theorem ahead_of_mem_upcoming {s : IdSource} {k : Nat} {id : String}
    (hroom : s.issued + k < wordLimit) (h : id ∈ s.upcoming k) : s.Ahead id := by
  obtain ⟨n, hlow, hhigh, rfl⟩ := mem_upcoming.1 h
  exact ⟨n, hlow, by omega, rfl⟩

theorem next_eq {s : IdSource} (hroom : s.issued + 1 < wordLimit) :
    s.next = (idOf s.seed (s.issued + 1), s.skip 1) := by
  have hnumber : wordAfter s.issued = s.issued + 1 := Nat.mod_eq_of_lt hroom
  unfold next
  rw [hnumber]
  rfl

/-- The next `k` ids, with numbers that begin again at zero behind the last one that fits. -/
def cycle (s : IdSource) (k : Nat) : List String :=
  (List.range' (s.issued + 1) k).map fun n => idOf s.seed (n % wordLimit)

/-- The second source is the first one behind `k` ids. -/
structure Advances (s : IdSource) (k : Nat) (t : IdSource) : Prop where
  seed : t.seed = s.seed
  issued : t.issued % wordLimit = (s.issued + k) % wordLimit
  fits : s.issued < wordLimit → t.issued < wordLimit

namespace Advances

variable {r s t : IdSource} {j k : Nat}

theorem nothing (s : IdSource) : s.Advances 0 s := ⟨rfl, rfl, fun h => h⟩

theorem next (s : IdSource) : s.Advances 1 s.next.2 := by
  refine ⟨rfl, Nat.mod_mod (s.issued + 1) wordLimit, fun _ => ?_⟩
  exact Nat.mod_lt _ (by decide)

theorem trans (h : r.Advances j s) (hnext : s.Advances k t) : r.Advances (j + k) t := by
  refine ⟨hnext.seed.trans h.seed, ?_, fun hr => hnext.fits (h.fits hr)⟩
  calc
    t.issued % wordLimit = (s.issued + k) % wordLimit := hnext.issued
    _ = (r.issued + j + k) % wordLimit := Nat.add_mod_eq_add_mod_right k h.issued
    _ = (r.issued + (j + k)) % wordLimit := by rw [Nat.add_assoc]

/-- The source goes on where it stands. -/
theorem cycle_add (h : s.Advances j t) (k : Nat) : s.cycle (j + k) = s.cycle j ++ t.cycle k := by
  have hlater : t.cycle k =
      (List.range' (s.issued + 1 + j) k).map fun n => idOf s.seed (n % wordLimit) := by
    simp only [cycle, List.range'_eq_map_range, List.map_map, h.seed]
    apply List.map_congr_left
    intro i _
    have hnumber : (t.issued + (1 + i)) % wordLimit = (s.issued + j + (1 + i)) % wordLimit :=
      Nat.add_mod_eq_add_mod_right (1 + i) h.issued
    have hleft : t.issued + 1 + i = t.issued + (1 + i) := by omega
    have hright : s.issued + 1 + j + i = s.issued + j + (1 + i) := by omega
    simp only [Function.comp_apply, hleft, hright, hnumber]
  rw [hlater]
  simp only [cycle, ← List.map_append]
  rw [List.range'_append_1]

/-- As long as the numbers last, the source has just counted on. -/
theorem eq_skip (h : s.Advances k t) (hroom : s.issued + k < wordLimit) : t = s.skip k := by
  have hfits := h.fits (by omega)
  have hissued := h.issued
  rw [Nat.mod_eq_of_lt hfits, Nat.mod_eq_of_lt hroom] at hissued
  obtain ⟨seed, issued⟩ := t
  simp only [skip, IdSource.mk.injEq]
  exact ⟨h.seed, hissued⟩

end Advances

theorem length_cycle (s : IdSource) (k : Nat) : (s.cycle k).length = k := by
  simp [cycle]

theorem cycle_eq_upcoming {s : IdSource} {k : Nat} (hroom : s.issued + k < wordLimit) :
    s.cycle k = s.upcoming k := by
  apply List.map_congr_left
  intro n hn
  rw [List.mem_range'_1] at hn
  rw [Nat.mod_eq_of_lt (by omega)]

/-- No id comes again before all numbers have been used, also when the numbers begin again. -/
theorem not_mem_cycle_of_mem_upcoming {s : IdSource} {j k : Nat} {id : String}
    (hroom : s.issued + j < wordLimit) (hcycle : j + k ≤ wordLimit) (h : id ∈ s.upcoming j) :
    id ∉ (s.skip j).cycle k := by
  obtain ⟨n, hlow, hhigh, rfl⟩ := mem_upcoming.1 h
  intro hagain
  obtain ⟨m, hm, hsame⟩ := List.mem_map.1 hagain
  have hnumber : m % wordLimit = n := idOf_injective s.seed hsame
  rw [List.mem_range'_1] at hm
  simp only [skip] at hm
  -- the later number is larger or, one round on, not yet back at the first of the ids
  by_cases hlast : m < wordLimit
  · rw [Nat.mod_eq_of_lt hlast] at hnumber
    omega
  · have hround : m % wordLimit = m - wordLimit := by
      rw [Nat.mod_eq_sub_mod (by omega), Nat.mod_eq_of_lt (by omega)]
    omega

/-- Handing out ids leads from one source to another: they are the next ids, and their numbers are
used up. -/
def HandsOut (s : IdSource) (ids : List String) (t : IdSource) : Prop :=
  t.seed = s.seed ∧ ids = s.upcoming ids.length ∧ s.issued + ids.length ≤ t.issued

namespace HandsOut

variable {s t : IdSource} {ids : List String} {id : String}

theorem nothing (s : IdSource) : HandsOut s [] s := ⟨rfl, rfl, Nat.le_refl _⟩

/-- What is ahead afterwards was ahead before. -/
theorem ahead (h : HandsOut s ids t) (hahead : t.Ahead id) : s.Ahead id := by
  obtain ⟨hseed, -, hissued⟩ := h
  exact hahead.mono hseed (by omega)

/-- What was handed out is no longer ahead. -/
theorem not_ahead (h : HandsOut s ids t) (hid : id ∈ ids) : ¬ t.Ahead id := by
  obtain ⟨hseed, hids, hissued⟩ := h
  rw [hids] at hid
  obtain ⟨n, -, hn, rfl⟩ := mem_upcoming.1 hid
  rintro ⟨m, hm, -, hsame⟩
  rw [hseed] at hsame
  have hnumber := idOf_injective s.seed hsame
  omega

theorem nodup (h : HandsOut s ids t) : ids.Nodup := by
  rw [h.2.1]
  exact nodup_upcoming s _

/-- A source that does not run out hands out only ids that were ahead. -/
theorem ahead_of_mem (h : HandsOut s ids t) (hroom : s.issued + ids.length < wordLimit)
    (hid : id ∈ ids) : s.Ahead id := by
  rw [h.2.1] at hid
  exact ahead_of_mem_upcoming hroom hid

end HandsOut

end IdSource

end PageBuilder
