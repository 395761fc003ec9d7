import PageBuilder.Section
import PageBuilder.Text.Cut
import Mathlib.Data.List.Chain
import Mathlib.Tactic.Common

/-!
Slugs as joined words. The words of a name are its maximal runs of letters and digits in lower
case, and its slug is these words with single dashes between them. So a slug has no dash at its ends
and no two in a row, and nothing in it comes from what stands between the words of the name.
-/

namespace PageBuilder

/-- The maximal runs of kept characters in a text, in order. -/
inductive MaximalRuns (kept : Char → Bool) : List Char → List (List Char) → Prop
  | none : MaximalRuns kept [] []
  | skip {c : Char} {cs : List Char} {runs : List (List Char)} : kept c = false →
      MaximalRuns kept cs runs → MaximalRuns kept (c :: cs) runs
  | run {c : Char} {cs rest : List Char} {runs : List (List Char)} :
      (∀ d ∈ c :: cs, kept d = true) → (∀ d ∈ rest.head?, kept d = false) →
      MaximalRuns kept rest runs → MaximalRuns kept (c :: cs ++ rest) ((c :: cs) :: runs)

/-- A text cut at the characters that are not kept, without the empty parts. -/
def keptRuns (kept : Char → Bool) (cs : List Char) : List (List Char) :=
  (cs.splitOnP fun c => !kept c).filter fun run => !run.isEmpty

section Runs

variable {kept : Char → Bool} {cs : List Char} {runs : List (List Char)}

theorem MaximalRuns.run_kept (h : MaximalRuns kept cs runs) {run : List Char} (hrun : run ∈ runs) :
    run ≠ [] ∧ ∀ c ∈ run, kept c = true ∧ c ∈ cs := by
  induction h with
  | none => cases hrun
  | skip _ _ ih =>
    obtain ⟨hne, hkept⟩ := ih hrun
    exact ⟨hne, fun c hc => ⟨(hkept c hc).1, List.mem_cons_of_mem _ (hkept c hc).2⟩⟩
  | run hkept _ _ ih =>
    rcases List.mem_cons.1 hrun with rfl | hrun
    · exact ⟨List.cons_ne_nil _ _, fun c hc => ⟨hkept c hc, List.mem_append_left _ hc⟩⟩
    · obtain ⟨hne, hrest⟩ := ih hrun
      exact ⟨hne, fun c hc => ⟨(hrest c hc).1, List.mem_append_right _ (hrest c hc).2⟩⟩

theorem keptRuns_skip {c : Char} (hc : kept c = false) (cs : List Char) :
    keptRuns kept (c :: cs) = keptRuns kept cs := by
  rw [keptRuns, List.splitOnP_cons_eq_if_modifyHead, hc]
  rfl

theorem keptRuns_run {c : Char} {rest : List Char} (hkept : ∀ d ∈ c :: cs, kept d = true)
    (hend : ∀ d ∈ rest.head?, kept d = false) :
    keptRuns kept (c :: cs ++ rest) = (c :: cs) :: keptRuns kept rest := by
  have hcut : ∀ d ∈ c :: cs, (!kept d) = false := fun d hd => by rw [hkept d hd]; rfl
  cases rest with
  | nil =>
    rw [List.append_nil, keptRuns, List.splitOnP_eq_singleton hcut]
    rfl
  | cons d rest =>
    have hd : kept d = false := hend d rfl
    rw [keptRuns_skip hd, keptRuns,
      List.splitOnP_append_cons_of_forall_mem hcut d (by rw [hd]; rfl)]
    rfl

theorem exists_maximalRuns (kept : Char → Bool) (cs : List Char) :
    ∃ runs, MaximalRuns kept cs runs := by
  -- what stands before the rest of the text and is kept is collected in `part`
  suffices hfrom : ∀ part, (∀ c ∈ part, kept c = true) → ∃ runs, MaximalRuns kept (part ++ cs) runs
    from hfrom [] (List.forall_mem_nil _)
  induction cs with
  | nil =>
    intro part hpart
    cases part with
    | nil => exact ⟨[], .none⟩
    | cons c part => exact ⟨_, .run hpart (by simp) .none⟩
  | cons c cs ih =>
    intro part hpart
    cases hc : kept c with
    | true =>
      have hlonger := ih (part ++ [c]) (by simpa [or_imp, forall_and, hc] using hpart)
      rwa [List.append_assoc, List.singleton_append] at hlonger
    | false =>
      obtain ⟨runs, hruns⟩ := ih [] (List.forall_mem_nil _)
      cases part with
      | nil => exact ⟨runs, .skip hc hruns⟩
      | cons d part => exact ⟨_, .run hpart (by simpa using hc) (.skip hc hruns)⟩

/-- A text has its maximal runs in one way, and cutting it finds them. -/
theorem maximalRuns_iff : MaximalRuns kept cs runs ↔ runs = keptRuns kept cs := by
  have heq {runs : List (List Char)} (h : MaximalRuns kept cs runs) : runs = keptRuns kept cs := by
    induction h with
    | none => rfl
    | skip hc _ ih => rw [keptRuns_skip hc, ih]
    | run hkept hend _ ih => rw [keptRuns_run hkept hend, ih]
  refine ⟨heq, ?_⟩
  rintro rfl
  obtain ⟨runs, hruns⟩ := exists_maximalRuns kept cs
  rwa [← heq hruns]

end Runs

section Loop

variable {kept : Char → Bool} {lower : Char → List Char} {cs : List Char}
  {runs : List (List Char)}

theorem intercalate_cons {α : Type} (separator first : List α) (rest : List (List α)) :
    separator.intercalate (first :: rest) =
      first ++ rest.flatMap fun part => separator ++ part := by
  induction rest generalizing first with
  | nil => simp
  | cons next rest ih =>
    rw [List.intercalate_cons_cons, ih, List.flatMap_cons, List.append_assoc, List.append_assoc]

theorem mem_intercalate {separator : List Char} {words : List (List Char)} {c : Char}
    (h : c ∈ separator.intercalate words) : c ∈ separator ∨ ∃ word ∈ words, c ∈ word := by
  cases words with
  | nil => cases h
  | cons word rest =>
    rw [intercalate_cons, List.mem_append, List.mem_flatMap] at h
    rcases h with hfirst | ⟨part, hpart, hc⟩
    · exact Or.inr ⟨word, List.mem_cons_self .., hfirst⟩
    · rcases List.mem_append.1 hc with hc | hc
      · exact Or.inl hc
      · exact Or.inr ⟨part, List.mem_cons_of_mem _ hpart, hc⟩

theorem slugChars_run {run : List Char} (hrun : ∀ c ∈ run, kept c = true) (rest : List Char) :
    slugChars kept lower true false (run ++ rest) =
      run.flatMap lower ++ slugChars kept lower true false rest := by
  induction run with
  | nil => rfl
  | cons c run ih =>
    obtain ⟨hc, hrest⟩ := List.forall_mem_cons.1 hrun
    rw [List.cons_append, slugChars, if_pos hc, ih hrest, List.flatMap_cons, List.append_assoc]
    rfl

/-- Behind a run something is left out, or the name ends. -/
theorem slugChars_behind {rest : List Char} (h : ∀ c ∈ rest.head?, kept c = false) :
    slugChars kept lower true false rest = slugChars kept lower true true rest := by
  cases rest with
  | nil => rfl
  | cons c rest =>
    have hc : kept c = false := h c rfl
    simp only [slugChars, hc, Bool.false_eq_true, if_false]

/-- A run is written as its word, behind a dash if it is not the first one. -/
theorem slugChars_word {c : Char} {rest : List Char} (hkept : ∀ d ∈ c :: cs, kept d = true)
    (hend : ∀ d ∈ rest.head?, kept d = false) (started pending : Bool) :
    slugChars kept lower started pending (c :: cs ++ rest) =
      (if started && pending then ['-'] else []) ++
        ((c :: cs).flatMap lower ++ slugChars kept lower true true rest) := by
  obtain ⟨hc, hcs⟩ := List.forall_mem_cons.1 hkept
  rw [List.cons_append, slugChars, if_pos hc, slugChars_run hcs, slugChars_behind hend,
    List.flatMap_cons, List.append_assoc]
  cases started && pending <;> rfl

theorem slugChars_started (h : MaximalRuns kept cs runs) :
    slugChars kept lower true true cs = runs.flatMap fun run => ['-'] ++ run.flatMap lower := by
  induction h with
  | none => rfl
  | skip hc _ ih => rw [slugChars, hc, if_neg Bool.false_ne_true, ih]
  | run hkept hend _ ih =>
    rw [slugChars_word hkept hend, ih]
    rfl

/-- The loop over a name writes the words of the name with dashes between them. -/
theorem slugChars_eq (h : MaximalRuns kept cs runs) (pending : Bool) :
    slugChars kept lower false pending cs =
      ['-'].intercalate (runs.map fun run => run.flatMap lower) := by
  induction h generalizing pending with
  | none => rfl
  | skip hc _ ih => rw [slugChars, hc, if_neg Bool.false_ne_true, ih]
  | run hkept hend hruns ih =>
    -- what follows the first run has been started, so the induction hypothesis is not for it
    rw [slugChars_word hkept hend, slugChars_started hruns, List.map_cons, intercalate_cons,
      List.flatMap_map]
    rfl

end Loop

/-- A text with no dash at its ends and no two in a row. -/
structure SinglyDashed (cs : List Char) : Prop where
  nonempty : cs ≠ []
  first : ∀ c ∈ cs.head?, c ≠ '-'
  last : ∀ c ∈ cs.getLast?, c ≠ '-'
  apart : cs.IsChain fun c d => c = '-' → d ≠ '-'

namespace SinglyDashed

theorem word {cs : List Char} (hne : cs ≠ []) (h : '-' ∉ cs) : SinglyDashed cs := by
  have hdashless {c : Char} (hc : c ∈ cs) : c ≠ '-' := fun heq => h (heq ▸ hc)
  refine ⟨hne, fun c hc => hdashless (List.mem_of_mem_head? hc),
    fun c hc => hdashless (List.mem_of_getLast? hc), List.Pairwise.isChain ?_⟩
  apply List.pairwise_of_forall_mem_list
  intro c hc d _ heq
  exact absurd heq (hdashless hc)

theorem join {cs ds : List Char} (hcs : SinglyDashed cs) (hds : SinglyDashed ds) :
    SinglyDashed (cs ++ ['-'] ++ ds) where
  nonempty := List.append_ne_nil_of_right_ne_nil _ hds.nonempty
  first := by
    rw [List.append_assoc, List.head?_append_of_ne_nil cs hcs.nonempty]
    exact hcs.first
  last := by
    rw [List.getLast?_append_of_ne_nil _ hds.nonempty]
    exact hds.last
  apart := by
    apply List.IsChain.append (List.IsChain.append hcs.apart (.singleton '-') ?_) hds.apart
    · intro c _ d hd _
      exact hds.first d hd
    · intro c hc d _ heq
      exact absurd heq (hcs.last c hc)

theorem intercalate {words : List (List Char)} (hne : words ≠ [])
    (h : ∀ word ∈ words, SinglyDashed word) : SinglyDashed (['-'].intercalate words) := by
  induction words with
  | nil => exact absurd rfl hne
  | cons word rest ih =>
    obtain ⟨hword, hrest⟩ := List.forall_mem_cons.1 h
    cases rest with
    | nil => rwa [List.intercalate_singleton]
    | cons next rest =>
      rw [List.intercalate_cons_cons]
      exact hword.join (ih (List.cons_ne_nil _ _) hrest)

theorem not_infix {cs : List Char} (h : SinglyDashed cs) : ¬ ['-', '-'] <:+: cs := by
  intro hinfix
  have hdashes := h.apart.infix hinfix
  exact (List.isChain_cons_cons.1 hdashes).1 rfl rfl

end SinglyDashed

/-- A character that separates the parts of a path or the words of a text. -/
def IsSeparator (c : Char) : Prop := c = '/' ∨ c = '\\' ∨ isBlank c = true

instance : DecidablePred IsSeparator := fun _ => inferInstanceAs (Decidable (_ ∨ _ ∨ _))

section Tables

variable {kept : Char → Bool} {lower : Char → List Char}

/-- The words of a name: its maximal runs of kept characters, in lower case. -/
def slugWords (kept : Char → Bool) (lower : Char → List Char) (name : String) : List (List Char) :=
  (keptRuns kept name.toList).map fun run => run.flatMap lower

theorem mem_slugWords {name : String} {word : List Char} (h : word ∈ slugWords kept lower name) :
    ∃ run, run ≠ [] ∧ (∀ c ∈ run, kept c = true ∧ c ∈ name.toList) ∧ word = run.flatMap lower := by
  obtain ⟨run, hrun, rfl⟩ := List.mem_map.1 h
  obtain ⟨hne, hkept⟩ := (maximalRuns_iff.2 rfl).run_kept hrun
  exact ⟨run, hne, hkept, rfl⟩

/-- The small form of a letter or a digit is not empty and has no dash. -/
def Dashless (kept : Char → Bool) (lower : Char → List Char) : Prop :=
  ∀ c, kept c = true → lower c ≠ [] ∧ '-' ∉ lower c

theorem singlyDashed_word (h : Dashless kept lower) {name : String} {word : List Char}
    (hword : word ∈ slugWords kept lower name) : SinglyDashed word := by
  obtain ⟨run, hne, hkept, rfl⟩ := mem_slugWords hword
  apply SinglyDashed.word
  · cases run with
    | nil => exact absurd rfl hne
    | cons c run =>
      obtain ⟨hc, -⟩ := List.forall_mem_cons.1 hkept
      exact List.append_ne_nil_of_left_ne_nil (h c hc.1).1 _
  · intro hdash
    obtain ⟨c, hc, hmem⟩ := List.mem_flatMap.1 hdash
    exact (h c (hkept c hc).1).2 hmem

theorem slugChars_words (kept : Char → Bool) (lower : Char → List Char) (name : String) :
    slugChars kept lower false false name.toList =
      ['-'].intercalate (slugWords kept lower name) := slugChars_eq (maximalRuns_iff.2 rfl) false

/-- The slug of a name that has words. -/
theorem slugWith_of_words (h : Dashless kept lower) {name : String}
    (hwords : slugWords kept lower name ≠ []) :
    (slugWith kept lower name).toList = ['-'].intercalate (slugWords kept lower name) := by
  have hne := (SinglyDashed.intercalate hwords fun _ => singlyDashed_word h).nonempty
  rw [slugWith, slugChars_words]
  split
  · next hnil => exact absurd hnil hne
  · exact String.toList_ofList

theorem slugWith_of_wordless {name : String} (hwords : slugWords kept lower name = []) :
    slugWith kept lower name = "section" := by
  rw [slugWith, slugChars_words, hwords]
  rfl

theorem singlyDashed_slug (h : Dashless kept lower) (name : String) :
    SinglyDashed (slugWith kept lower name).toList := by
  by_cases hwords : slugWords kept lower name = []
  · rw [slugWith_of_wordless hwords]
    exact .word (by decide) (by decide)
  · rw [slugWith_of_words h hwords]
    exact .intercalate hwords fun _ => singlyDashed_word h

/-- A separator in a slug is part of the small form of a letter or a digit of the name. -/
theorem separator_of_mem_slug (h : Dashless kept lower) {name : String} {c : Char}
    (hc : IsSeparator c) (hmem : c ∈ (slugWith kept lower name).toList) :
    ∃ d ∈ name.toList, kept d = true ∧ c ∈ lower d := by
  by_cases hwords : slugWords kept lower name = []
  · rw [slugWith_of_wordless hwords] at hmem
    have hsection : ∀ c ∈ "section".toList, ¬ IsSeparator c := by decide
    exact absurd hc (hsection c hmem)
  · rw [slugWith_of_words h hwords] at hmem
    rcases mem_intercalate hmem with hdash | ⟨word, hword, hcword⟩
    · obtain rfl := List.mem_singleton.1 hdash
      exact absurd hc (by decide)
    · obtain ⟨run, -, hkept, rfl⟩ := mem_slugWords hword
      obtain ⟨d, hd, hcd⟩ := List.mem_flatMap.1 hcword
      exact ⟨d, (hkept d hd).2, (hkept d hd).1, hcd⟩

end Tables

section Unicode

/-- The numbers of the dash and of the separators. -/
def separatorCodes : List Nat :=
  [0x2d, 0x2f, 0x5c, 0x20, 0x85, 0xa0, 0x1680, 0x2028, 0x2029, 0x202f, 0x205f, 0x3000] ++
    List.range' 9 5 ++ List.range' 0x2000 11

theorem mem_separatorCodes {c : Char} (h : c = '-' ∨ IsSeparator c) : c.toNat ∈ separatorCodes := by
  rcases h with rfl | rfl | rfl | hblank
  · decide
  · decide
  · decide
  · simp only [isBlank, Bool.or_eq_true, Bool.and_eq_true, decide_eq_true_eq, beq_iff_eq] at hblank
    simp only [separatorCodes, List.mem_append, List.mem_cons, List.mem_range'_1,
      List.not_mem_nil]
    omega

/-- Neither the dash nor a separator is a letter or a digit. -/
theorem separators_not_alphanumeric : ∀ n ∈ separatorCodes,
    CharSet.inside n CharSet.alphanumeric.bounds false = false := by decide +kernel

/-- No run of small letters reaches over the dash or a separator. -/
theorem separators_not_small : ∀ r ∈ capitalRuns, ∀ n ∈ separatorCodes,
    (n : Int) < r.first + r.shift ∨ r.last + r.shift < (n : Int) := by decide +kernel

theorem mem_lowerChar {c d : Char} (h : d ∈ lowerChar c) :
    d = Char.ofNat 0x69 ∨ d = Char.ofNat 0x307 ∨ d = c ∨
      ∃ r ∈ capitalRuns, r.first ≤ c.toNat ∧ c.toNat ≤ r.last ∧
        d = Char.ofNat (c.toNat + r.shift).toNat := by
  unfold lowerChar at h
  split at h
  · simp only [List.mem_cons, List.not_mem_nil, or_false] at h
    tauto
  · split at h
    · next r hfound =>
      have hcovers : r.covers c.toNat = true := by simpa using List.find?_some hfound
      simp only [CaseRun.covers, Bool.and_eq_true, decide_eq_true_eq] at hcovers
      exact Or.inr (Or.inr (Or.inr ⟨r, List.mem_of_find?_eq_some hfound, hcovers.1.1, hcovers.1.2,
        List.mem_singleton.1 h⟩))
    · exact Or.inr (Or.inr (Or.inl (List.mem_singleton.1 h)))

theorem lowerChar_ne_nil (c : Char) : lowerChar c ≠ [] := by
  unfold lowerChar
  split
  · exact List.cons_ne_nil _ _
  · split <;> exact List.cons_ne_nil _ _

/-- A number that no character has stands for the null character. -/
theorem toNat_ofNat_cases (n : Nat) : (Char.ofNat n).toNat = n ∨ (Char.ofNat n).toNat = 0 := by
  by_cases h : n.isValidChar
  · left
    rw [Char.ofNat, dif_pos h]
    rfl
  · right
    rw [Char.ofNat, dif_neg h]
    rfl

/-- The small form of a letter or a digit holds neither a dash nor a separator. -/
theorem not_mem_lowerChar {c d : Char} (hc : isAlphanumeric c = true)
    (hd : d = '-' ∨ IsSeparator d) : d ∉ lowerChar c := by
  have hcode := mem_separatorCodes hd
  intro hmem
  rcases mem_lowerChar hmem with rfl | rfl | rfl | ⟨r, hr, hlow, hhigh, rfl⟩
  · exact absurd hcode (by decide)
  · exact absurd hcode (by decide)
  · have hnot := separators_not_alphanumeric _ hcode
    rw [isAlphanumeric, CharSet.contains, hnot] at hc
    cases hc
  · -- were there no character with the number, the small form would be the null character
    have hcodes : 0 ∉ separatorCodes := by decide
    have hne : (Char.ofNat (c.toNat + r.shift).toNat).toNat ≠ 0 := fun hzero =>
      hcodes (hzero ▸ hcode)
    have hvalue := (toNat_ofNat_cases (c.toNat + r.shift).toNat).resolve_right hne
    rw [hvalue] at hcode hne
    have hapart := separators_not_small r hr _ hcode
    omega

end Unicode

/-- Over tables of letters, digits and their small forms, of which none is empty or has a dash, the
slug of a name is made of the words of the name: its maximal runs of letters and digits, each of
them in small letters, with single dashes between them. A name without words has the slug `section`.
So a slug is not empty, it has no dash at its ends and no two in a row, and a separator in it is
part of the small form of a letter or a digit of the name. The tables of all scripts are like that,
and over them a slug has no separators at all. -/
theorem slug_joins_words :
    (∀ (kept : Char → Bool) (lower : Char → List Char),
      (∀ c, kept c = true → lower c ≠ [] ∧ '-' ∉ lower c) → ∀ name : String,
      let slug := slugWith kept lower name
      let words := slugWords kept lower name
      (∀ runs, MaximalRuns kept name.toList runs ↔ runs = keptRuns kept name.toList) ∧
      (words ≠ [] → slug.toList = ['-'].intercalate words) ∧
      (words = [] → slug = "section") ∧
      slug ≠ "" ∧ slug.toList.head? ≠ some '-' ∧ slug.toList.getLast? ≠ some '-' ∧
      ¬ ['-', '-'] <:+: slug.toList ∧
      ∀ c ∈ slug.toList, IsSeparator c → ∃ d ∈ name.toList, kept d = true ∧ c ∈ lower d) ∧
    (∀ c, isAlphanumeric c = true → lowerChar c ≠ [] ∧ '-' ∉ lowerChar c) ∧
    ∀ name, ∀ c ∈ (slugify name).toList, ¬ IsSeparator c := by
  have htables : Dashless isAlphanumeric lowerChar :=
    fun c hc => ⟨lowerChar_ne_nil c, not_mem_lowerChar hc (Or.inl rfl)⟩
  refine ⟨?_, htables, ?_⟩
  · intro kept lower h name slug words
    have hslug := singlyDashed_slug h name
    refine ⟨fun runs => maximalRuns_iff, slugWith_of_words h, slugWith_of_wordless, ?_,
      fun hhead => hslug.first '-' hhead rfl, fun hlast => hslug.last '-' hlast rfl,
      hslug.not_infix, fun c hc hseparator => separator_of_mem_slug h hseparator hc⟩
    intro hempty
    exact hslug.nonempty (String.toList_eq_nil_iff.2 hempty)
  · intro name c hc hseparator
    obtain ⟨d, -, hd, hmem⟩ := separator_of_mem_slug htables hseparator hc
    exact not_mem_lowerChar hd (Or.inr hseparator) hmem

/-- The letter `x`, with the small form `/`. -/
def slashTables : (Char → Bool) × (Char → List Char) := (fun c => c == 'x', fun _ => ['/'])

theorem slug_joins_words_prices :
    (∀ c, isAlphanumeric c = true → lowerChar c ≠ [] ∧ '-' ∉ lowerChar c) ∧
      (let name := "  Prices & Plans: Ñandú!! "
      slugWords isAlphanumeric lowerChar name = ["prices".toList, "plans".toList, "ñandú".toList] ∧
        (slugify name).toList = ['-'].intercalate (slugWords isAlphanumeric lowerChar name) ∧
        slugify name = "prices-plans-ñandú") ∧
      slugify "* / *" = "section" ∧
      (∀ c, slashTables.1 c = true → slashTables.2 c ≠ [] ∧ '-' ∉ slashTables.2 c) ∧
      (let slug := slugWith slashTables.1 slashTables.2 " x /x"
      slug = "/-/" ∧ '/' ∈ slug.toList ∧ IsSeparator '/' ∧
        ∃ d ∈ " x /x".toList, slashTables.1 d = true ∧ '/' ∈ slashTables.2 d) := by
  obtain ⟨hall, htables, -⟩ := slug_joins_words
  have hslash : ∀ c, slashTables.1 c = true → slashTables.2 c ≠ [] ∧ '-' ∉ slashTables.2 c := by
    intro c _
    have hsmall : '-' ∉ ['/'] := by decide
    exact ⟨List.cons_ne_nil _ _, hsmall⟩
  have hwords : slugWords isAlphanumeric lowerChar "  Prices & Plans: Ñandú!! " =
      ["prices".toList, "plans".toList, "ñandú".toList] := by decide +kernel
  have hjoined := (hall _ _ htables "  Prices & Plans: Ñandú!! ").2.1 (by simp [hwords])
  have hnone := (hall _ _ htables "* / *").2.2.1 (by decide +kernel)
  have hslug : slugWith slashTables.1 slashTables.2 " x /x" = "/-/" := by decide
  have hmem : '/' ∈ (slugWith slashTables.1 slashTables.2 " x /x").toList := by rw [hslug]; decide
  obtain ⟨-, -, -, -, -, -, -, hseparator⟩ := hall _ _ hslash " x /x"
  exact ⟨htables, ⟨hwords, hjoined, by decide +kernel⟩, hnone, hslash,
    ⟨hslug, hmem, by decide, hseparator '/' hmem (by decide)⟩⟩

end PageBuilder
