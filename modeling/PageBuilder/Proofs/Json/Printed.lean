import PageBuilder.Proofs.Json.Text

/-!
Printed JSON reads back. Both written forms of a value are read as an equal value, as long as the
outline lets all of the value count and the value is not too deep.
-/

namespace PageBuilder.Json

variable {object : List (String × Json) → Prop}

theorem itemChars_cons (j : Json) {rest : List Json} (h : rest ≠ []) :
    itemChars (j :: rest) = j.chars ++ ',' :: itemChars rest := by
  cases rest with
  | nil => exact absurd rfl h
  | cons next rest =>
    rw [itemChars]
    exact h

theorem memberChars_single (k : String) (j : Json) :
    memberChars [(k, j)] = quoteChars k ++ ':' :: (j.chars ++ ([] ++ ['\x7d'])) := by
  rw [memberChars, List.append_assoc]
  rfl

theorem memberChars_cons (k : String) (j : Json) {rest : List (String × Json)} (h : rest ≠ []) :
    memberChars ((k, j) :: rest) =
      quoteChars k ++ ':' :: (j.chars ++ ',' :: memberChars rest) := by
  cases rest with
  | nil => exact absurd rfl h
  | cons next rest =>
    rw [memberChars, List.append_assoc]
    · rfl
    · exact h

-- the induction goes down the value; what a part is read as comes from the part itself, and how
-- much room and fuel the whole needs is in `Reads` and the lemmas that put parts together
mutual

theorem chars_reads (o : Outline) (j : Json) (hcovers : o.Covers j)
    (h : j.Throughout Number.ReadsBack object) : ∃ k, Reads o j.chars k ∧ k.same j = true := by
  cases j with
  | null => exact ⟨.null, reads_null, rfl⟩
  | bool b => exact ⟨.bool b, reads_bool b, by simp [same]⟩
  | num n =>
    obtain ⟨m, hm, hsame⟩ := h
    exact ⟨.num m, reads_num hm, hsame⟩
  | str s => exact ⟨.str s, reads_str s, by simp [same]⟩
  | arr items =>
    by_cases hne : items = []
    · subst hne
      exact ⟨.arr [], reads_emptyList, rfl⟩
    · obtain ⟨ks, hks, hsame⟩ := itemChars_reads o items hne hcovers h
      exact ⟨.arr ks, .list hks, hsame⟩
  | obj members =>
    by_cases hne : members = []
    · subst hne
      exact ⟨.obj [], reads_emptyObject, rfl⟩
    · obtain ⟨ks, hks, hsame⟩ := memberChars_reads o members hne hcovers h.2
      exact ⟨.obj ks, .object hks, hsame⟩

theorem itemChars_reads (o : Outline) (items : List Json) (hne : items ≠ [])
    (hcovers : Outline.CoversItems o items) (h : ItemsThroughout Number.ReadsBack object items) :
    ∃ ks, ReadsItems o (itemChars items) ks ∧ sameItems ks items = true := by
  cases items with
  | nil => exact absurd rfl hne
  | cons item rest =>
    obtain ⟨k, hk, hsame⟩ := chars_reads o.split.1 item hcovers.1 h.1
    by_cases hrest : rest = []
    · subst hrest
      exact ⟨[k], .last hk spaces_nil, by simp [sameItems, hsame]⟩
    · obtain ⟨ks, hks, hsames⟩ := itemChars_reads o.split.2 rest hrest hcovers.2 h.2
      rw [itemChars_cons item hrest]
      exact ⟨k :: ks, .cons hk hks, by simp [sameItems, hsame, hsames]⟩

theorem memberChars_reads (o : Outline) (members : List (String × Json)) (hne : members ≠ [])
    (hcovers : Outline.CoversMembers o members)
    (h : MembersThroughout Number.ReadsBack object members) :
    ∃ ks, ReadsMembers o (memberChars members) ks ∧ sameMembers ks members = true := by
  cases members with
  | nil => exact absurd rfl hne
  | cons member rest =>
    obtain ⟨⟨part, hpart, hcovered⟩, hothers⟩ := hcovers
    obtain ⟨k, hk, hsame⟩ := chars_reads part member.2 hcovered h.1
    by_cases hrest : rest = []
    · subst hrest
      rw [memberChars_single]
      exact ⟨[(member.1, k)], .last hpart hk spaces_nil, by simp [sameMembers, hsame]⟩
    · obtain ⟨ks, hks, hsames⟩ := memberChars_reads o rest hrest hothers h.2
      rw [memberChars_cons member.1 member.2 hrest]
      exact ⟨(member.1, k) :: ks, .cons hpart hk hks, by simp [sameMembers, hsame, hsames]⟩

end

theorem spaces_newLine (level : Nat) : Spaces (newLine level) := by
  intro c hc
  rcases List.mem_cons.1 hc with rfl | hc
  · decide
  · obtain rfl := List.eq_of_mem_replicate hc
    decide

theorem prettyItems_single (level : Nat) (j : Json) :
    prettyItems level [j] =
      newLine (level + 1) ++ prettyChars (level + 1) j ++ (newLine level ++ [']']) := by
  simp [prettyItems]

theorem prettyItems_cons (level : Nat) (j : Json) {rest : List Json} (h : rest ≠ []) :
    prettyItems level (j :: rest) =
      newLine (level + 1) ++ prettyChars (level + 1) j ++ ',' :: prettyItems level rest := by
  simp [prettyItems, h]

theorem prettyMembers_single (level : Nat) (k : String) (j : Json) :
    prettyMembers level [(k, j)] =
      newLine (level + 1) ++ (quoteChars k ++ ':' ::
        (([' '] ++ prettyChars (level + 1) j) ++ (newLine level ++ ['\x7d']))) := by
  simp [prettyMembers]

theorem prettyMembers_cons (level : Nat) (k : String) (j : Json) {rest : List (String × Json)}
    (h : rest ≠ []) :
    prettyMembers level ((k, j) :: rest) =
      newLine (level + 1) ++ (quoteChars k ++ ':' ::
        (([' '] ++ prettyChars (level + 1) j) ++ ',' :: prettyMembers level rest)) := by
  simp [prettyMembers, h]

mutual

theorem prettyChars_reads (o : Outline) (level : Nat) (j : Json) (hcovers : o.Covers j)
    (h : j.Throughout Number.ReadsBack object) :
    ∃ k, Reads o (prettyChars level j) k ∧ k.same j = true := by
  cases j with
  | null => exact ⟨.null, reads_null, rfl⟩
  | bool b =>
    have hchars : prettyChars level (.bool b) = Json.chars (.bool b) := by cases b <;> rfl
    rw [hchars]
    exact ⟨.bool b, reads_bool b, by simp [same]⟩
  | num n =>
    obtain ⟨m, hm, hsame⟩ := h
    exact ⟨.num m, reads_num hm, hsame⟩
  | str s => exact ⟨.str s, reads_str s, by simp [same]⟩
  | arr items =>
    by_cases hne : items = []
    · subst hne
      exact ⟨.arr [], reads_emptyList, rfl⟩
    · obtain ⟨ks, hks, hsame⟩ := prettyItems_reads o level items hne hcovers h
      rw [prettyChars, if_neg (by simpa using hne)]
      exact ⟨.arr ks, .list hks, hsame⟩
  | obj members =>
    by_cases hne : members = []
    · subst hne
      exact ⟨.obj [], reads_emptyObject, rfl⟩
    · obtain ⟨ks, hks, hsame⟩ := prettyMembers_reads o level members hne hcovers h.2
      rw [prettyChars, if_neg (by simpa using hne)]
      exact ⟨.obj ks, .object hks, hsame⟩

theorem prettyItems_reads (o : Outline) (level : Nat) (items : List Json) (hne : items ≠ [])
    (hcovers : Outline.CoversItems o items) (h : ItemsThroughout Number.ReadsBack object items) :
    ∃ ks, ReadsItems o (prettyItems level items) ks ∧ sameItems ks items = true := by
  cases items with
  | nil => exact absurd rfl hne
  | cons item rest =>
    obtain ⟨k, hk, hsame⟩ := prettyChars_reads o.split.1 (level + 1) item hcovers.1 h.1
    have hitem := hk.after_space (spaces_newLine (level + 1))
    by_cases hrest : rest = []
    · subst hrest
      rw [prettyItems_single]
      exact ⟨[k], .last hitem (spaces_newLine level), by simp [sameItems, hsame]⟩
    · obtain ⟨ks, hks, hsames⟩ := prettyItems_reads o.split.2 level rest hrest hcovers.2 h.2
      rw [prettyItems_cons level item hrest]
      exact ⟨k :: ks, .cons hitem hks, by simp [sameItems, hsame, hsames]⟩

theorem prettyMembers_reads (o : Outline) (level : Nat) (members : List (String × Json))
    (hne : members ≠ []) (hcovers : Outline.CoversMembers o members)
    (h : MembersThroughout Number.ReadsBack object members) :
    ∃ ks, ReadsMembers o (prettyMembers level members) ks ∧ sameMembers ks members = true := by
  cases members with
  | nil => exact absurd rfl hne
  | cons member rest =>
    obtain ⟨⟨part, hpart, hcovered⟩, hothers⟩ := hcovers
    obtain ⟨k, hk, hsame⟩ := prettyChars_reads part (level + 1) member.2 hcovered h.1
    have hblank : Spaces [' '] := by
      intro c hc
      obtain rfl := List.mem_singleton.1 hc
      decide
    have hvalue := hk.after_space hblank
    by_cases hrest : rest = []
    · subst hrest
      rw [prettyMembers_single]
      have hmember := ReadsMembers.last hpart hvalue (spaces_newLine level)
      exact ⟨[(member.1, k)], hmember.after_space (spaces_newLine (level + 1)),
        by simp [sameMembers, hsame]⟩
    · obtain ⟨ks, hks, hsames⟩ := prettyMembers_reads o level rest hrest hothers h.2
      rw [prettyMembers_cons level member.1 member.2 hrest]
      have hmembers := ReadsMembers.cons hpart hvalue hks
      exact ⟨(member.1, k) :: ks, hmembers.after_space (spaces_newLine (level + 1)),
        by simp [sameMembers, hsame, hsames]⟩

end

mutual

/-- Equal values are equally deep. -/
theorem levels_eq_of_same (a b : Json) (h : a.same b = true) : a.levels = b.levels := by
  cases b with
  | arr bs =>
    cases a with
    | arr as =>
      rw [same] at h
      rw [levels, levels, itemsLevels_eq_of_same as bs h]
    | _ => simp [same] at h
  | obj bs =>
    cases a with
    | obj as =>
      rw [same] at h
      rw [levels, levels, membersLevels_eq_of_same as bs h]
    | _ => simp [same] at h
  | _ => cases a <;> simp [same, levels] at h ⊢

theorem itemsLevels_eq_of_same (as bs : List Json) (h : sameItems as bs = true) :
    itemsLevels as = itemsLevels bs := by
  cases bs with
  | nil => cases as <;> simp [sameItems] at h ⊢
  | cons b bs =>
    cases as with
    | nil => simp [sameItems] at h
    | cons a as =>
      rw [sameItems, Bool.and_eq_true] at h
      rw [itemsLevels, itemsLevels, levels_eq_of_same a b h.1, itemsLevels_eq_of_same as bs h.2]

theorem membersLevels_eq_of_same (as bs : List (String × Json)) (h : sameMembers as bs = true) :
    membersLevels as = membersLevels bs := by
  cases bs with
  | nil => cases as <;> simp [sameMembers] at h ⊢
  | cons b bs =>
    cases as with
    | nil => simp [sameMembers] at h
    | cons a as =>
      rw [sameMembers, Bool.and_eq_true, Bool.and_eq_true] at h
      rw [membersLevels, membersLevels, levels_eq_of_same a.2 b.2 h.1.2,
        membersLevels_eq_of_same as bs h.2]

end

/-- A text that is read as a value, alone. -/
theorem Reads.alone {o : Outline} {s : String} {j : Json} (h : Reads o s.toList j) :
    readOutlined? o s = if j.levels ≤ maxNesting then some j else none := by
  have hread := h (2 * s.toList.length + 2) maxNesting [] endsNumber_nil (by omega)
  rw [List.append_nil] at hread
  unfold readOutlined?
  dsimp only
  rw [hread]
  by_cases hlevels : j.levels ≤ maxNesting
  · rw [if_pos hlevels, if_pos hlevels]
    rfl
  · rw [if_neg hlevels, if_neg hlevels]

/-- The compact form of a value is read as an equal value, unless it is too deep. -/
theorem readOutlined?_compact {o : Outline} {j : Json} (hcovers : o.Covers j)
    (h : j.Throughout Number.ReadsBack object) :
    ∃ k, k.same j = true ∧
      readOutlined? o j.compact = if j.levels ≤ maxNesting then some k else none := by
  obtain ⟨k, hk, hsame⟩ := chars_reads o j hcovers h
  refine ⟨k, hsame, ?_⟩
  rw [← levels_eq_of_same k j hsame]
  apply Reads.alone
  rwa [compact, String.toList_ofList]

/-- The pretty form of a value is read as an equal value, unless it is too deep. -/
theorem readOutlined?_pretty {o : Outline} {j : Json} (hcovers : o.Covers j)
    (h : j.Throughout Number.ReadsBack object) :
    ∃ k, k.same j = true ∧
      readOutlined? o j.pretty = if j.levels ≤ maxNesting then some k else none := by
  obtain ⟨k, hk, hsame⟩ := prettyChars_reads o 0 j hcovers h
  refine ⟨k, hsame, ?_⟩
  rw [← levels_eq_of_same k j hsame]
  apply Reads.alone
  rwa [pretty, String.toList_ofList]

section Exact

mutual

/-- A value is read as itself if its numbers are. -/
theorem chars_reads_itself (o : Outline) (j : Json) (hcovers : o.Covers j)
    (h : j.Throughout Number.ReadsItself object) : Reads o j.chars j := by
  cases j with
  | null => exact reads_null
  | bool b => exact reads_bool b
  | num n => exact reads_num h
  | str s => exact reads_str s
  | arr items =>
    by_cases hne : items = []
    · subst hne
      exact reads_emptyList
    · exact .list (itemChars_reads_itself o items hne hcovers h)
  | obj members =>
    by_cases hne : members = []
    · subst hne
      exact reads_emptyObject
    · exact .object (memberChars_reads_itself o members hne hcovers h.2)

theorem itemChars_reads_itself (o : Outline) (items : List Json) (hne : items ≠ [])
    (hcovers : Outline.CoversItems o items) (h : ItemsThroughout Number.ReadsItself object items) :
    ReadsItems o (itemChars items) items := by
  cases items with
  | nil => exact absurd rfl hne
  | cons item rest =>
    have hitem := chars_reads_itself o.split.1 item hcovers.1 h.1
    by_cases hrest : rest = []
    · subst hrest
      exact .last hitem spaces_nil
    · rw [itemChars_cons item hrest]
      exact .cons hitem (itemChars_reads_itself o.split.2 rest hrest hcovers.2 h.2)

theorem memberChars_reads_itself (o : Outline) (members : List (String × Json))
    (hne : members ≠ []) (hcovers : Outline.CoversMembers o members)
    (h : MembersThroughout Number.ReadsItself object members) :
    ReadsMembers o (memberChars members) members := by
  cases members with
  | nil => exact absurd rfl hne
  | cons member rest =>
    obtain ⟨⟨part, hpart, hcovered⟩, hothers⟩ := hcovers
    have hvalue := chars_reads_itself part member.2 hcovered h.1
    by_cases hrest : rest = []
    · subst hrest
      rw [memberChars_single]
      exact .last hpart hvalue spaces_nil
    · rw [memberChars_cons member.1 member.2 hrest]
      exact .cons hpart hvalue (memberChars_reads_itself o rest hrest hothers h.2)

end

/-- The compact form of a value whose numbers read back exactly is read as the value, unless it is
too deep. -/
theorem read?_compact {j : Json} (h : j.Throughout Number.ReadsItself object) :
    read? j.compact = if j.levels ≤ maxNesting then some j else none := by
  apply Reads.alone
  rw [compact, String.toList_ofList]
  exact chars_reads_itself .whole j (Outline.whole_covers j) h

mutual

theorem Throughout.mono {p q : Number → Prop} (hpq : ∀ n, p n → q n) {j : Json}
    (h : j.Throughout p object) : j.Throughout q object := by
  cases j with
  | num n => exact hpq n h
  | arr items =>
    have hitems : ItemsThroughout p object items := h
    exact ItemsThroughout.mono hpq hitems
  | obj members => exact ⟨h.1, MembersThroughout.mono hpq h.2⟩
  | _ => trivial

theorem ItemsThroughout.mono {p q : Number → Prop} (hpq : ∀ n, p n → q n) {items : List Json}
    (h : ItemsThroughout p object items) : ItemsThroughout q object items := by
  cases items with
  | nil => trivial
  | cons j rest => exact ⟨Throughout.mono hpq h.1, ItemsThroughout.mono hpq h.2⟩

theorem MembersThroughout.mono {p q : Number → Prop} (hpq : ∀ n, p n → q n)
    {members : List (String × Json)} (h : MembersThroughout p object members) :
    MembersThroughout q object members := by
  cases members with
  | nil => trivial
  | cons m rest => exact ⟨Throughout.mono hpq h.1, MembersThroughout.mono hpq h.2⟩

end

/-- An integer that 64 bits hold, with or without a sign. -/
def Number.IsWord : Number → Prop
  | .int n => -signedLimit ≤ n ∧ n < wordLimit
  | .float _ => False

theorem Number.IsWord.readsItself {n : Number} (h : n.IsWord) : n.ReadsItself := by
  cases n with
  | int n => exact Number.readsItself_int h.1 h.2
  | float x => exact absurd h id

end Exact

theorem prettyMembers_getLast? (level : Nat) (members : List (String × Json)) :
    (prettyMembers level members).getLast? = some '\x7d' := by
  induction members with
  | nil => rw [prettyMembers, List.getLast?_append, List.getLast?_singleton, Option.some_or]
  | cons m rest ih =>
    obtain ⟨key, j⟩ := m
    rw [prettyMembers, List.getLast?_append, ih, Option.some_or]

theorem pretty_obj {members : List (String × Json)} (h : members ≠ []) :
    (Json.obj members).pretty.toList = '\x7b' :: prettyMembers 0 members := by
  rw [pretty, String.toList_ofList, prettyChars, if_neg (by simpa using h)]

end PageBuilder.Json
