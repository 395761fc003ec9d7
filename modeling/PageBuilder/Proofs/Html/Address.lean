import PageBuilder.Html.Escape
import PageBuilder.Proofs.Html.Escape
import Mathlib.Data.List.TakeWhile
import Mathlib.Tactic.Common

/-!
Addresses as browsers read them. What comes before an address up to the blank of ASCII does not
count, and neither do tabs and line breaks within it. The check of addresses skips white space in
front only, so a scheme that runs a script gets past it exactly when it stands behind another
control character, or when a tab or a line break is between its letters.
-/

namespace PageBuilder

/-- A browser takes the character away wherever it is in an address. -/
def isBreak (c : Char) : Bool := c == '\t' || c == '\n' || c == '\r'

/-- A browser takes the character away at the start of an address. -/
def isLeading (c : Char) : Bool := decide (c.toNat ≤ 0x20)

/-- The letters that a text spells for a browser. -/
def spelled (cs : List Char) : List Char := (cs.filter fun c => !isBreak c).map Char.toLower

/-- An address as a browser compares it with its schemes. -/
def browserUrl (url : List Char) : List Char := spelled (url.dropWhile isLeading)

/-- A browser that follows the address runs a script. -/
def RunsScript (url : List Char) : Prop :=
  ∃ scheme ∈ scriptSchemes, scheme.toList <+: browserUrl url

/-- A scheme that runs a script is in the address for a browser, but not for the check. -/
inductive Evades : List Char → Prop
  /-- A control character that is no white space stands in front of it. -/
  | hidden {lead name rest : List Char} {scheme : String} : (∀ c ∈ lead, isLeading c = true) →
      (∃ c ∈ lead, isBlank c = false) → scheme ∈ scriptSchemes → spelled name = scheme.toList →
      Evades (lead ++ (name ++ rest))
  /-- A tab or a line break stands between its letters. -/
  | broken {lead front back rest : List Char} {c : Char} {scheme : String} :
      (∀ c ∈ lead, isLeading c = true) → isBreak c = true → scheme ∈ scriptSchemes →
      spelled front ++ spelled back = scheme.toList → spelled front ≠ [] → spelled back ≠ [] →
      Evades (lead ++ (front ++ c :: (back ++ rest)))

/-- The check finds a scheme that runs a script. -/
def Caught (url : List Char) : Prop :=
  ∃ scheme ∈ scriptSchemes, scheme.toList <+: (trimStartChars url).map Char.toLower

theorem safeUrl_of_caught {url : String} (h : Caught url.toList) : safeUrl url = "#" := by
  obtain ⟨scheme, hscheme, hbegins⟩ := h
  unfold safeUrl
  refine if_pos (List.any_eq_true.2 ⟨scheme, hscheme, ?_⟩)
  exact List.isPrefixOf_iff_prefix.2 hbegins

theorem safeUrl_of_not_caught {url : String} (h : ¬ Caught url.toList) : safeUrl url = url := by
  unfold safeUrl
  refine if_neg fun hany => h ?_
  obtain ⟨scheme, hscheme, hbegins⟩ := List.any_eq_true.1 hany
  exact ⟨scheme, hscheme, List.isPrefixOf_iff_prefix.1 hbegins⟩

section Schemes

/-- Nothing that is left away in front of a scheme or within it is a letter of it. -/
theorem scheme_letters : ∀ scheme ∈ scriptSchemes, ∀ c ∈ scheme.toList,
    isLeading c = false ∧ isBlank c = false := by
  decide

theorem scheme_cons {scheme : String} (h : scheme ∈ scriptSchemes) :
    ∃ a t, scheme.toList = a :: t ∧ isLeading a = false ∧ isBlank a = false := by
  have hne : ∀ scheme ∈ scriptSchemes, scheme.toList ≠ [] := by decide
  obtain ⟨a, t, hletters⟩ := List.exists_cons_of_ne_nil (hne scheme h)
  have hfirst : a ∈ scheme.toList := by
    rw [hletters]
    exact List.mem_cons_self ..
  exact ⟨a, t, hletters, scheme_letters scheme h a hfirst⟩

theorem scheme_prefix : ∀ first ∈ scriptSchemes, ∀ second ∈ scriptSchemes,
    first.toList <+: second.toList → first.toList = second.toList := by
  decide

end Schemes

section Letters

variable {c : Char}

theorem isLeading_of_isBreak (h : isBreak c = true) : isLeading c = true := by
  unfold isBreak at h
  simp only [Bool.or_eq_true, beq_iff_eq] at h
  rcases h with (rfl | rfl) | rfl <;> decide

theorem not_mem_scheme_of_isBreak (h : isBreak c = true) {scheme : String}
    (hscheme : scheme ∈ scriptSchemes) : c ∉ scheme.toList := by
  intro hmem
  have hletter := (scheme_letters scheme hscheme c hmem).1
  rw [isLeading_of_isBreak h] at hletter
  cases hletter

theorem toLower_eq (h : ¬ (65 ≤ c.toNat ∧ c.toNat ≤ 90)) : c.toLower = c := by
  unfold Char.toLower
  exact dif_neg h

theorem toLower_of_isLeading (h : isLeading c = true) : c.toLower = c := by
  apply toLower_eq
  have hle : c.toNat ≤ 0x20 := of_decide_eq_true h
  omega

theorem toLower_of_isBlank (h : isBlank c = true) : c.toLower = c := by
  apply toLower_eq
  simp only [isBlank, Bool.or_eq_true, Bool.and_eq_true, decide_eq_true_eq, beq_iff_eq] at h
  omega

end Letters

section Spelling

variable {c : Char} {cs : List Char}

theorem spelled_break (h : isBreak c = true) (cs : List Char) : spelled (c :: cs) = spelled cs := by
  simp [spelled, h]

theorem spelled_letter (h : isBreak c = false) (cs : List Char) :
    spelled (c :: cs) = c.toLower :: spelled cs := by
  simp [spelled, h]

theorem spelled_append (first second : List Char) :
    spelled (first ++ second) = spelled first ++ spelled second := by
  simp [spelled]

theorem spelled_split {first second : List Char} (h : spelled cs = first ++ second) :
    ∃ front back, cs = front ++ back ∧ spelled front = first ∧ spelled back = second := by
  obtain ⟨kept, others, hkept, rfl, rfl⟩ := List.map_eq_append_iff.1 h
  obtain ⟨front, back, rfl, rfl, rfl⟩ := List.filter_eq_append_iff.1 hkept
  exact ⟨front, back, rfl, rfl, rfl⟩

/-- A scheme that stands in a text as it is, but for the case of its letters, is spelled there. -/
theorem spelled_of_prefix {scheme : String} (hscheme : scheme ∈ scriptSchemes)
    (h : scheme.toList <+: cs.map Char.toLower) :
    ∃ name rest, cs = name ++ rest ∧ name.map Char.toLower = scheme.toList ∧
      spelled name = scheme.toList := by
  obtain ⟨more, hmore⟩ := h
  obtain ⟨name, rest, rfl, hname, -⟩ := List.map_eq_append_iff.1 hmore.symm
  refine ⟨name, rest, rfl, hname, ?_⟩
  -- none of the letters is a break, so nothing is left away
  have hkept : name.filter (fun c => !isBreak c) = name := by
    refine List.filter_eq_self.2 fun c hc => ?_
    rw [Bool.not_eq_true']
    refine eq_false_of_ne_true fun hbreak => not_mem_scheme_of_isBreak hbreak hscheme ?_
    rw [← hname, ← toLower_of_isLeading (isLeading_of_isBreak hbreak)]
    exact List.mem_map_of_mem hc
  rw [spelled, hkept, hname]

/-- Characters in front that are left away spell nothing before the first letter. -/
theorem spelled_dropWhile {p : Char → Bool} (hlower : ∀ c, p c = true → c.toLower = c)
    {a : Char} {t : List Char} (h : spelled cs = a :: t) (ha : p a = false) :
    spelled (cs.dropWhile p) = a :: t := by
  induction cs with
  | nil => cases h
  | cons c cs ih =>
    cases hp : p c with
    | false => rwa [List.dropWhile_cons_of_neg (by simp [hp])]
    | true =>
      rw [List.dropWhile_cons_of_pos hp]
      cases hc : isBreak c with
      | true => exact ih (spelled_break hc cs ▸ h)
      | false =>
        -- the character would be the first letter itself
        rw [spelled_letter hc, hlower c hp, List.cons.injEq] at h
        rw [h.1, ha] at hp
        cases hp

/-- Where no text to be left away is in front of a break, there is a letter in front of it. -/
theorem spelled_ne_nil {front more : List Char} (hc : isBreak c = true)
    (h : ∀ d ∈ (front ++ c :: more).head?, isLeading d = false) : spelled front ≠ [] := by
  intro hnone
  cases front with
  | nil =>
    have hfirst := h c rfl
    rw [isLeading_of_isBreak hc] at hfirst
    cases hfirst
  | cons d front =>
    have hfirst : isLeading d = false := h d rfl
    have hd : isBreak d = true := by
      by_contra hd
      rw [spelled_letter (eq_false_of_ne_true hd)] at hnone
      cases hnone
    rw [isLeading_of_isBreak hd] at hfirst
    cases hfirst

/-- What a text spells stands in it as it is, or with a break between its letters. -/
theorem prefix_spelled {s : List Char} (h : s <+: spelled cs) :
    s <+: cs.map Char.toLower ∨ ∃ front c back rest, cs = front ++ c :: (back ++ rest) ∧
      isBreak c = true ∧ spelled front ++ spelled back = s ∧ spelled back ≠ [] := by
  induction cs generalizing s with
  | nil => exact Or.inl h
  | cons d cs ih =>
    cases s with
    | nil => exact Or.inl (List.nil_prefix ..)
    | cons a s =>
      -- the first break before the end of the text divides it
      cases hd : isBreak d with
      | true =>
        rw [spelled_break hd] at h
        obtain ⟨more, hmore⟩ := h
        obtain ⟨back, rest, rfl, hback, -⟩ := spelled_split hmore.symm
        refine Or.inr ⟨[], d, back, rest, rfl, hd, hback, ?_⟩
        rw [hback]
        exact List.cons_ne_nil _ _
      | false =>
        rw [spelled_letter hd, List.cons_prefix_cons] at h
        obtain ⟨rfl, h⟩ := h
        rcases ih h with hplain | ⟨front, c, back, rest, rfl, hc, rfl, hback⟩
        · exact Or.inl (List.cons_prefix_cons.2 ⟨rfl, hplain⟩)
        · refine Or.inr ⟨d :: front, c, back, rest, rfl, hc, ?_, hback⟩
          rw [spelled_letter hd, List.cons_append]

end Spelling

section Check

variable {lead front back rest name : List Char} {scheme : String}

theorem runsScript_of_spelled (hscheme : scheme ∈ scriptSchemes)
    (hlead : ∀ c ∈ lead, isLeading c = true) {cs more : List Char}
    (h : spelled cs = scheme.toList ++ more) : RunsScript (lead ++ cs) := by
  refine ⟨scheme, hscheme, ?_⟩
  obtain ⟨a, t, hletters, ha, -⟩ := scheme_cons hscheme
  rw [hletters, List.cons_append] at h
  rw [browserUrl, List.dropWhile_append_of_pos hlead,
    spelled_dropWhile (fun c => toLower_of_isLeading) h ha, hletters]
  exact List.prefix_append (a :: t) more

/-- A control character in front that is no white space hides the rest from the check. -/
theorem not_caught_of_hidden (hlead : ∀ c ∈ lead, isLeading c = true)
    (hhidden : ∃ c ∈ lead, isBlank c = false) (cs : List Char) : ¬ Caught (lead ++ cs) := by
  rintro ⟨scheme, hscheme, hbegins⟩
  obtain ⟨c, hc, hplain⟩ := hhidden
  cases hdrop : lead.dropWhile isBlank with
  | nil =>
    rw [List.dropWhile_eq_nil_iff.1 hdrop c hc] at hplain
    cases hplain
  | cons d others =>
    -- the check stops at a control character, which begins no scheme
    have hd : isLeading d = true := by
      refine hlead d ((List.dropWhile_sublist isBlank).subset ?_)
      rw [hdrop]
      exact List.mem_cons_self ..
    obtain ⟨a, t, hletters, ha, -⟩ := scheme_cons hscheme
    rw [hletters, trimStartChars, List.dropWhile_append, hdrop] at hbegins
    simp only [List.isEmpty_cons, Bool.false_eq_true, if_false, List.cons_append, List.map_cons,
      List.cons_prefix_cons] at hbegins
    rw [hbegins.1, toLower_of_isLeading hd, hd] at ha
    cases ha

theorem prefix_before {s x y : List Char} {b : Char} (h : s <+: x ++ b :: y) (hb : b ∉ s) :
    s <+: x := by
  rcases List.prefix_or_prefix_of_prefix h (List.prefix_append x (b :: y)) with hs | hx
  · exact hs
  · obtain ⟨more, rfl⟩ := hx
    rw [List.prefix_append_right_inj] at h
    cases more with
    | nil => simp
    | cons d more =>
      refine absurd ?_ hb
      rw [(List.cons_prefix_cons.1 h).1]
      exact List.mem_append_right x (List.mem_cons_self ..)

/-- The check sees no scheme when a break stands between its letters. -/
theorem not_caught_of_broken {c : Char} (hlead : ∀ c ∈ lead, isBlank c = true)
    (hc : isBreak c = true) (hscheme : scheme ∈ scriptSchemes)
    (hsplit : spelled front ++ spelled back = scheme.toList) (hfront : spelled front ≠ [])
    (hback : spelled back ≠ []) : ¬ Caught (lead ++ (front ++ c :: (back ++ rest))) := by
  rintro ⟨found, hfound, hbegins⟩
  -- the check skips white space of the front only, whose letters stay
  obtain ⟨a, t, hletters⟩ := List.exists_cons_of_ne_nil hfront
  have ha : isBlank a = false := by
    refine (scheme_letters scheme hscheme a ?_).2
    rw [← hsplit, hletters]
    exact List.mem_cons_self ..
  have hkept := spelled_dropWhile (fun c => toLower_of_isBlank) hletters ha
  have hne : ¬ (front.dropWhile isBlank).isEmpty = true := by
    intro hempty
    rw [List.isEmpty_iff.1 hempty] at hkept
    cases hkept
  rw [trimStartChars, List.dropWhile_append_of_pos hlead, List.dropWhile_append, if_neg hne,
    List.map_append, List.map_cons, toLower_of_isLeading (isLeading_of_isBreak hc)] at hbegins
  -- the scheme it finds stands in front of the break
  have hbefore : found.toList <+: (front.dropWhile isBlank).map Char.toLower :=
    prefix_before hbegins (not_mem_scheme_of_isBreak hc hfound)
  obtain ⟨taken, others, htaken, -, hspells⟩ := spelled_of_prefix hfound hbefore
  -- so it begins the one that the break divides, and it is too short to be the same
  have hstarts : found.toList <+: spelled front := by
    rw [hletters, ← hkept, htaken, spelled_append, hspells]
    exact List.prefix_append _ _
  have hsame := scheme_prefix found hfound scheme hscheme
    (hsplit ▸ hstarts.trans (List.prefix_append ..))
  have hlength : scheme.toList.length ≤ (spelled front).length := hsame ▸ hstarts.length_le
  rw [← hsplit, List.length_append] at hlength
  exact hback (List.length_eq_zero_iff.1 (by omega))

theorem Evades.runsScript {url : List Char} (h : Evades url) : RunsScript url := by
  cases h with
  | @hidden lead name rest scheme hlead _ hscheme hname =>
    have hspells : spelled (name ++ rest) = scheme.toList ++ spelled rest := by
      rw [spelled_append, hname]
    exact runsScript_of_spelled hscheme hlead hspells
  | @broken lead front back rest c scheme hlead hc hscheme hsplit _ _ =>
    have hspells : spelled (front ++ c :: (back ++ rest)) = scheme.toList ++ spelled rest := by
      rw [spelled_append, spelled_break hc, spelled_append, ← List.append_assoc, hsplit]
    exact runsScript_of_spelled hscheme hlead hspells

theorem Evades.not_caught {url : List Char} (h : Evades url) : ¬ Caught url := by
  cases h with
  | hidden hlead hhidden _ _ => exact not_caught_of_hidden hlead hhidden _
  | @broken lead front back rest c scheme hlead hc hscheme hsplit hfront hback =>
    by_cases hblank : ∀ c ∈ lead, isBlank c = true
    · exact not_caught_of_broken hblank hc hscheme hsplit hfront hback
    · push Not at hblank
      simp only [ne_eq, Bool.not_eq_true] at hblank
      exact not_caught_of_hidden hlead hblank _

theorem caught_of_plain (hlead : ∀ c ∈ lead, isBlank c = true) (hscheme : scheme ∈ scriptSchemes)
    (hname : name.map Char.toLower = scheme.toList) : Caught (lead ++ (name ++ rest)) := by
  refine ⟨scheme, hscheme, ?_⟩
  rw [trimStartChars, List.dropWhile_append_of_pos hlead, ← hname]
  cases name with
  | nil => exact List.nil_prefix
  | cons a others =>
    have ha : isBlank a.toLower = false :=
      (scheme_letters scheme hscheme _ (hname ▸ List.mem_cons_self ..)).2
    have hkept : ¬ isBlank a = true := by
      intro hblank
      rw [toLower_of_isBlank hblank, hblank] at ha
      cases ha
    rw [List.cons_append, List.dropWhile_cons_of_neg hkept, ← List.cons_append, List.map_append]
    exact List.prefix_append _ _

theorem evades_of_runsScript {url : List Char} (hrun : RunsScript url) (h : ¬ Caught url) :
    Evades url := by
  obtain ⟨scheme, hscheme, hbegins⟩ := hrun
  have hurl : url = url.takeWhile isLeading ++ url.dropWhile isLeading :=
    List.takeWhile_append_dropWhile.symm
  have hlead : ∀ c ∈ url.takeWhile isLeading, isLeading c = true :=
    fun c hc => List.mem_takeWhile_imp hc
  rcases prefix_spelled hbegins with hplain | ⟨front, c, back, rest, htail, hc, hsplit, hback⟩
  · obtain ⟨name, rest, htail, hname, hspells⟩ := spelled_of_prefix hscheme hplain
    -- behind white space alone the check would find the scheme
    by_cases hblank : ∀ c ∈ url.takeWhile isLeading, isBlank c = true
    · refine absurd ?_ h
      rw [hurl, htail]
      exact caught_of_plain hblank hscheme hname
    · push Not at hblank
      simp only [ne_eq, Bool.not_eq_true] at hblank
      rw [hurl, htail]
      exact .hidden hlead hblank hscheme hspells
  · have hfirst : ∀ d ∈ (front ++ c :: (back ++ rest)).head?, isLeading d = false := by
      intro d hd
      have hstops := List.head?_dropWhile_not isLeading url
      rw [htail, Option.mem_def.1 hd] at hstops
      simpa using hstops
    have hfront : spelled front ≠ [] := spelled_ne_nil hc hfirst
    rw [hurl, htail]
    exact .broken hlead hc hscheme hsplit hfront hback

/-- An address that has been checked runs a script exactly when the check did not see its scheme. -/
theorem runsScript_safeUrl_iff (url : String) :
    RunsScript (safeUrl url).toList ↔ Evades url.toList := by
  by_cases hcaught : Caught url.toList
  · rw [safeUrl_of_caught hcaught]
    constructor
    · intro hrun
      exact absurd hrun (by unfold RunsScript; decide)
    · exact fun h => absurd hcaught h.not_caught
  · rw [safeUrl_of_not_caught hcaught]
    exact ⟨fun hrun => evades_of_runsScript hrun hcaught, Evades.runsScript⟩

end Check

end PageBuilder
