import PageBuilder.Proofs.Decimal.Numeral
import PageBuilder.Proofs.Json.Printed

/-!
Compact JSON stands on one line. Control characters are escaped in strings and occur nowhere else,
and an object starts and ends with its braces.
-/

namespace PageBuilder.Json

/-- No control characters, and so no line breaks. -/
def Uncontrolled (cs : List Char) : Prop := ∀ c ∈ cs, 0x20 ≤ c.toNat

theorem uncontrolled_of_all {cs : List Char} (h : cs.all (fun c => decide (0x20 ≤ c.toNat)) = true) :
    Uncontrolled cs := fun c hc => of_decide_eq_true (List.all_eq_true.1 h c hc)

theorem uncontrolled_nil : Uncontrolled [] := List.forall_mem_nil _

theorem uncontrolled_cons {c : Char} {cs : List Char} (hc : 0x20 ≤ c.toNat)
    (hcs : Uncontrolled cs) : Uncontrolled (c :: cs) := List.forall_mem_cons.2 ⟨hc, hcs⟩

theorem Uncontrolled.append {cs ds : List Char} (hcs : Uncontrolled cs) (hds : Uncontrolled ds) :
    Uncontrolled (cs ++ ds) := List.forall_mem_append.2 ⟨hcs, hds⟩

theorem uncontrolled_numeral {cs : List Char} (h : Numeral cs) : Uncontrolled cs := by
  intro c hc
  have hrange := toNat_of_isNumeral (h c hc)
  omega

theorem uncontrolled_escapeChar (c : Char) : Uncontrolled (escapeChar c) := by
  unfold escapeChar
  split_ifs with hquote hbackslash hfeed hreturn htab hback hform hcontrol
  iterate 7
    · exact uncontrolled_of_all (by decide)
  · have hdigits : ∀ n < 0x20,
        ('\\' :: 'u' :: hex4 n).all (fun c => decide (0x20 ≤ c.toNat)) = true := by decide
    exact uncontrolled_of_all (hdigits _ hcontrol)
  · exact uncontrolled_cons (Nat.le_of_not_lt hcontrol) uncontrolled_nil

theorem uncontrolled_quoteChars (s : String) : Uncontrolled (quoteChars s) := by
  refine Uncontrolled.append (uncontrolled_cons (by decide) ?_)
    (uncontrolled_cons (by decide) uncontrolled_nil)
  intro d hd
  obtain ⟨c, -, hd⟩ := List.mem_flatMap.1 hd
  exact uncontrolled_escapeChar c d hd

mutual

theorem uncontrolled_chars (j : Json) : Uncontrolled j.chars := by
  cases j with
  | null => exact uncontrolled_of_all (by decide)
  | bool b => cases b <;> exact uncontrolled_of_all (by decide)
  | num n => exact uncontrolled_numeral n.chars_numeral
  | str s => exact uncontrolled_quoteChars s
  | arr items => exact uncontrolled_cons (by decide) (uncontrolled_itemChars items)
  | obj members => exact uncontrolled_cons (by decide) (uncontrolled_memberChars members)

theorem uncontrolled_itemChars (items : List Json) : Uncontrolled (itemChars items) := by
  cases items with
  | nil => exact uncontrolled_cons (by decide) uncontrolled_nil
  | cons j rest =>
    by_cases hrest : rest = []
    · subst hrest
      exact (uncontrolled_chars j).append (uncontrolled_cons (by decide) uncontrolled_nil)
    · rw [itemChars_cons j hrest]
      exact (uncontrolled_chars j).append
        (uncontrolled_cons (by decide) (uncontrolled_itemChars rest))

theorem uncontrolled_memberChars (members : List (String × Json)) :
    Uncontrolled (memberChars members) := by
  cases members with
  | nil => exact uncontrolled_cons (by decide) uncontrolled_nil
  | cons m rest =>
    obtain ⟨k, j⟩ := m
    have hvalue := uncontrolled_chars j
    by_cases hrest : rest = []
    · subst hrest
      rw [memberChars_single]
      exact (uncontrolled_quoteChars k).append (uncontrolled_cons (by decide)
        (hvalue.append (uncontrolled_cons (by decide) uncontrolled_nil)))
    · rw [memberChars_cons k j hrest]
      exact (uncontrolled_quoteChars k).append (uncontrolled_cons (by decide)
        (hvalue.append (uncontrolled_cons (by decide) (uncontrolled_memberChars rest))))

end

/-- The items of a list end with its closing bracket. -/
theorem itemChars_ends (items : List Json) : ∃ inner, itemChars items = inner ++ [']'] := by
  induction items with
  | nil => exact ⟨[], rfl⟩
  | cons j rest ih =>
    by_cases hrest : rest = []
    · subst hrest
      exact ⟨j.chars, rfl⟩
    · obtain ⟨inner, hinner⟩ := ih
      refine ⟨j.chars ++ ',' :: inner, ?_⟩
      rw [itemChars_cons j hrest, hinner, List.append_assoc, List.cons_append]

/-- The members of an object end with its closing brace. -/
theorem memberChars_ends (members : List (String × Json)) :
    ∃ inner, memberChars members = inner ++ ['\x7d'] := by
  induction members with
  | nil => exact ⟨[], rfl⟩
  | cons m rest ih =>
    obtain ⟨k, j⟩ := m
    by_cases hrest : rest = []
    · subst hrest
      refine ⟨quoteChars k ++ ':' :: j.chars, ?_⟩
      rw [memberChars_single, List.nil_append, List.append_assoc, List.cons_append]
    · obtain ⟨inner, hinner⟩ := ih
      refine ⟨quoteChars k ++ ':' :: (j.chars ++ ',' :: inner), ?_⟩
      rw [memberChars_cons k j hrest, hinner]
      simp only [List.append_assoc, List.cons_append]

theorem obj_chars (members : List (String × Json)) :
    ∃ inner, (Json.obj members).chars = '\x7b' :: (inner ++ ['\x7d']) := by
  obtain ⟨inner, hinner⟩ := memberChars_ends members
  exact ⟨inner, by rw [chars, hinner]⟩

end PageBuilder.Json
