import PageBuilder.Text.Cut
import Mathlib.Tactic.Common

/-!
Parts of a text. A text that is cut at a character falls into parts without it, and a text put
together at that character falls into the parts of both sides. How a text starts, and parts joined
with a text between them.
-/

namespace PageBuilder

variable {c : Char} {cs ds : List Char}

theorem splitOnChar_ne_nil (c : Char) (cs : List Char) : splitOnChar c cs ≠ [] := by
  cases cs with
  | nil => exact List.cons_ne_nil _ _
  | cons d cs =>
    rw [splitOnChar]
    split
    · exact List.cons_ne_nil _ _
    · cases splitOnChar c cs <;> exact List.cons_ne_nil _ _

theorem splitOnChar_of_not_mem (h : c ∉ cs) : splitOnChar c cs = [cs] := by
  induction cs with
  | nil => rfl
  | cons d cs ih =>
    rw [List.mem_cons, not_or] at h
    rw [splitOnChar, if_neg (Ne.symm h.1), ih h.2]

theorem splitOnChar_append (c : Char) (cs ds : List Char) :
    splitOnChar c (cs ++ c :: ds) = splitOnChar c cs ++ splitOnChar c ds := by
  induction cs with
  | nil => exact if_pos rfl
  | cons d cs ih =>
    rw [List.cons_append, splitOnChar, splitOnChar, ih]
    split
    · rw [List.cons_append]
    · cases hparts : splitOnChar c cs with
      | nil => exact absurd hparts (splitOnChar_ne_nil c cs)
      | cons part parts => rfl

theorem not_mem_of_mem_splitOnChar {part : List Char} (h : part ∈ splitOnChar c cs) : c ∉ part := by
  induction cs generalizing part with
  | nil =>
    rw [splitOnChar, List.mem_singleton] at h
    rw [h]
    exact List.not_mem_nil
  | cons d cs ih =>
    rw [splitOnChar] at h
    split at h
    · rcases List.mem_cons.1 h with rfl | hrest
      · exact List.not_mem_nil
      · exact ih hrest
    · next hd =>
      cases hparts : splitOnChar c cs with
      | nil => exact absurd hparts (splitOnChar_ne_nil c cs)
      | cons first parts =>
        rw [hparts] at h ih
        rcases List.mem_cons.1 h with rfl | hrest
        · rw [List.mem_cons, not_or]
          exact ⟨Ne.symm hd, ih (List.mem_cons_self ..)⟩
        · exact ih (List.mem_cons_of_mem _ hrest)

/-- Induction over the parts of a text: the last one, and one before a separator. -/
@[elab_as_elim]
theorem parts_induction {motive : List Char → Prop} (c : Char)
    (last : ∀ part, c ∉ part → motive part)
    (before : ∀ part rest, c ∉ part → motive rest → motive (part ++ c :: rest))
    (cs : List Char) : motive cs := by
  -- what stands before the next separator is collected in `part`
  suffices hfrom : ∀ part, c ∉ part → motive (part ++ cs) from hfrom [] List.not_mem_nil
  induction cs with
  | nil =>
    intro part hpart
    rw [List.append_nil]
    exact last part hpart
  | cons d cs ih =>
    intro part hpart
    by_cases hd : d = c
    · subst hd
      exact before part cs hpart (ih [] List.not_mem_nil)
    · have hlonger := ih (part ++ [d]) (by simp [hpart, Ne.symm hd])
      rwa [List.append_assoc, List.singleton_append] at hlonger

/-- Behind the last separator there is only one text. -/
theorem append_cons_inj_right {xs ys : List Char} (hcs : c ∉ cs) (hds : c ∉ ds)
    (h : xs ++ c :: cs = ys ++ c :: ds) : cs = ds := by
  have hlast (front : List Char) {l : List Char} (hl : c ∉ l) :
      (splitOnChar c (front ++ c :: l)).getLast? = some l := by
    rw [splitOnChar_append, splitOnChar_of_not_mem hl, List.getLast?_concat]
  have hends := hlast xs hcs
  rw [h, hlast ys hds] at hends
  exact (Option.some.inj hends).symm

theorem withoutEnd_eq {s : String} (h : [c].isSuffixOf s.toList = false) : withoutEnd c s = s := by
  have hdrop : s.toList.reverse.dropWhile (· == c) = s.toList.reverse := by
    rw [List.isSuffixOf, List.reverse_singleton] at h
    cases hback : s.toList.reverse with
    | nil => rfl
    | cons last rest =>
      rw [hback, List.isPrefixOf, List.isPrefixOf, Bool.and_true] at h
      have hne : ¬ (last == c) = true := by
        intro heq
        rw [eq_of_beq heq, beq_self_eq_true] at h
        cases h
      rw [List.dropWhile_cons, if_neg hne]
  rw [withoutEnd, hdrop, List.reverse_reverse, String.ofList_toList]

theorem beforeBack?_eq_some_iff {back cs front : List Char} :
    beforeBack? back cs = some front ↔ cs = front ++ back := by
  unfold beforeBack?
  constructor
  · intro h
    split at h
    · next hend =>
      obtain ⟨before, rfl⟩ := List.isSuffixOf_iff_suffix.1 hend
      rw [List.length_append, Nat.add_sub_cancel, List.take_left, Option.some.injEq] at h
      rw [h]
    · cases h
  · rintro rfl
    rw [if_pos (List.isSuffixOf_iff_suffix.2 (List.suffix_append ..)), List.length_append,
      Nat.add_sub_cancel, List.take_left]

theorem startsWith_ofList (front : String) (cs : List Char) :
    startsWith (String.ofList cs) front = front.toList.isPrefixOf cs := by
  unfold startsWith
  simp only [String.toList_ofList]

theorem joinWith_cons (between s : String) {rest : List String} (h : rest ≠ []) :
    joinWith between (s :: rest) = s ++ between ++ joinWith between rest := by
  cases rest with
  | nil => exact absurd rfl h
  | cons next rest => rfl

theorem joinWith_starts (between s : String) (rest : List String) :
    ∃ tail, (joinWith between (s :: rest)).toList = s.toList ++ tail := by
  by_cases hrest : rest = []
  · subst hrest
    exact ⟨[], (List.append_nil _).symm⟩
  · refine ⟨between.toList ++ (joinWith between rest).toList, ?_⟩
    rw [joinWith_cons between s hrest, String.toList_append, String.toList_append,
      List.append_assoc]

end PageBuilder
