import PageBuilder.Proofs.Json.Scalars

/-!
JSON texts that are read as a value, whatever stands behind them. How the reader puts a list or an
object together from its parts is one lemma for each way that a text of it goes on; a text is read
exactly when its levels are within the room there is for them.
-/

namespace PageBuilder.Json

section Values

mutual

/-- Levels of lists and objects that open in a value. -/
def levels : Json → Nat
  | .arr items => itemsLevels items + 1
  | .obj members => membersLevels members + 1
  | _ => 0

def itemsLevels : List Json → Nat
  | [] => 0
  | j :: rest => max j.levels (itemsLevels rest)

def membersLevels : List (String × Json) → Nat
  | [] => 0
  | (_, j) :: rest => max j.levels (membersLevels rest)

end

theorem membersLevels_append (as bs : List (String × Json)) :
    membersLevels (as ++ bs) = max (membersLevels as) (membersLevels bs) := by
  induction as with
  | nil => simp [membersLevels]
  | cons a as ih => rw [List.cons_append, membersLevels, membersLevels, ih, Nat.max_assoc]

mutual

/-- Every number in the value is as `number` says, and the members of every object are as `object`
says. -/
def Throughout (number : Number → Prop) (object : List (String × Json) → Prop) : Json → Prop
  | .num n => number n
  | .arr items => ItemsThroughout number object items
  | .obj members => object members ∧ MembersThroughout number object members
  | _ => True

def ItemsThroughout (number : Number → Prop) (object : List (String × Json) → Prop) :
    List Json → Prop
  | [] => True
  | j :: rest => j.Throughout number object ∧ ItemsThroughout number object rest

def MembersThroughout (number : Number → Prop) (object : List (String × Json) → Prop) :
    List (String × Json) → Prop
  | [] => True
  | (_, j) :: rest => j.Throughout number object ∧ MembersThroughout number object rest

end

mutual

/-- All parts of the value count. -/
def Outline.Covers (outline : Outline) : Json → Prop
  | .arr items => Outline.CoversItems outline items
  | .obj members => Outline.CoversMembers outline members
  | _ => True

def Outline.CoversItems (outline : Outline) : List Json → Prop
  | [] => True
  | j :: rest => outline.split.1.Covers j ∧ Outline.CoversItems outline.split.2 rest

def Outline.CoversMembers (outline : Outline) : List (String × Json) → Prop
  | [] => True
  | (k, j) :: rest =>
    (∃ part, outline.member? k = some part ∧ part.Covers j) ∧ Outline.CoversMembers outline rest

end

mutual

theorem Outline.whole_covers (j : Json) : Outline.whole.Covers j := by
  cases j with
  | arr items => simpa only [Outline.Covers] using Outline.whole_coversItems items
  | obj members => simpa only [Outline.Covers] using Outline.whole_coversMembers members
  | _ => simp only [Outline.Covers]

theorem Outline.whole_coversItems (items : List Json) : Outline.whole.CoversItems items := by
  cases items with
  | nil => simp only [Outline.CoversItems]
  | cons j rest =>
    simp only [Outline.CoversItems]
    exact ⟨Outline.whole_covers j, Outline.whole_coversItems rest⟩

theorem Outline.whole_coversMembers (members : List (String × Json)) :
    Outline.whole.CoversMembers members := by
  cases members with
  | nil => simp only [Outline.CoversMembers]
  | cons m rest =>
    simp only [Outline.CoversMembers]
    exact ⟨⟨.whole, rfl, Outline.whole_covers m.2⟩, Outline.whole_coversMembers rest⟩

end

end Values

section Spaces

/-- Nothing but white space. -/
def Spaces (cs : List Char) : Prop := ∀ c ∈ cs, isSpace c = true

theorem spaces_nil : Spaces [] := by
  intro c hc
  cases hc

theorem skipSpace_append {ws : List Char} (h : Spaces ws) (cs : List Char) :
    skipSpace (ws ++ cs) = skipSpace cs := List.dropWhile_append_of_pos h

theorem skipSpace_skipSpace (cs : List Char) : skipSpace (skipSpace cs) = skipSpace cs := by
  induction cs with
  | nil => rfl
  | cons c cs ih =>
    unfold skipSpace at ih ⊢
    by_cases hc : isSpace c = true
    · rw [List.dropWhile_cons, if_pos hc, ih]
    · rw [List.dropWhile_cons, if_neg hc, List.dropWhile_cons, if_neg hc]

theorem skipSpace_cons {c : Char} (h : isSpace c = false) (cs : List Char) :
    skipSpace (c :: cs) = c :: cs := by
  unfold skipSpace
  rw [List.dropWhile_cons, if_neg (by rw [h]; exact Bool.false_ne_true)]

theorem readValue_skipSpace (o : Outline) (fuel room : Nat) (cs : List Char) :
    readValue o fuel room (skipSpace cs) = readValue o fuel room cs := by
  cases fuel with
  | zero => rfl
  | succ fuel => rw [readValue, readValue, skipSpace_skipSpace]

theorem readValue_bracket (o : Outline) (fuel room : Nat) (cs : List Char) :
    readValue o (fuel + 1) room ('[' :: cs) =
      if room = 0 then none
      else
        match skipSpace cs with
        | ']' :: rest => some (.arr [], rest)
        | rest => (readItems o fuel (room - 1) rest).map fun r => (.arr r.1, r.2) := by
  rw [readValue]
  rfl

theorem readValue_brace (o : Outline) (fuel room : Nat) (cs : List Char) :
    readValue o (fuel + 1) room ('\x7b' :: cs) =
      if room = 0 then none
      else
        match skipSpace cs with
        | '\x7d' :: rest => some (.obj [], rest)
        | rest => (readMembers o fuel (room - 1) rest).map fun r => (.obj r.1, r.2) := by
  rw [readValue]
  rfl

theorem readItems_succ (o : Outline) (fuel room : Nat) (cs : List Char) :
    readItems o (fuel + 1) room cs =
      (readValue o.split.1 fuel room cs).bind fun r =>
        match skipSpace r.2 with
        | ']' :: rest => some ([r.1], rest)
        | ',' :: rest =>
          (readItems o.split.2 fuel room rest).bind fun s => some (r.1 :: s.1, s.2)
        | _ => none := by
  rw [readItems]
  rfl

theorem readMembers_key {o part : Outline} {key : String} {body after value : List Char}
    (hkey : stringBody body = some (key.toList, after)) (hcolon : skipSpace after = ':' :: value)
    (hpart : o.member? key = some part) (fuel room : Nat) :
    readMembers o (fuel + 1) room ('"' :: body) =
      (readValue part fuel room value).bind fun r =>
        match skipSpace r.2 with
        | '\x7d' :: rest => some ([(key, r.1)], rest)
        | ',' :: rest =>
          (readMembers o fuel room rest).bind fun s => some ((key, r.1) :: s.1, s.2)
        | _ => none := by
  rw [readMembers, skipSpace_cons (by decide)]
  simp only [hkey, hcolon, String.ofList_toList, hpart, Option.bind_eq_bind, Option.bind_some]
  cases readValue part fuel room value <;> rfl

theorem readItems_skipSpace (o : Outline) (fuel room : Nat) (cs : List Char) :
    readItems o fuel room (skipSpace cs) = readItems o fuel room cs := by
  cases fuel with
  | zero => rfl
  | succ fuel => rw [readItems_succ, readItems_succ, readValue_skipSpace]

theorem readMembers_skipSpace (o : Outline) (fuel room : Nat) (cs : List Char) :
    readMembers o fuel room (skipSpace cs) = readMembers o fuel room cs := by
  cases fuel with
  | zero => rfl
  | succ fuel => rw [readMembers, readMembers, skipSpace_skipSpace]

theorem endsNumber_spaces {ws : List Char} (hws : Spaces ws) {c : Char} (hc : inNumber c = false)
    (rest : List Char) : EndsNumber (ws ++ c :: rest) := by
  cases ws with
  | nil => exact endsNumber_cons hc rest
  | cons w ws =>
    refine endsNumber_cons ?_ (ws ++ c :: rest)
    have hspace := hws w (List.mem_cons_self ..)
    simp only [isSpace, Bool.or_eq_true, decide_eq_true_eq, or_assoc] at hspace
    rcases hspace with rfl | rfl | rfl | rfl <;> decide

end Spaces

section Reads

/-- A text is read as a value, whatever stands behind it, if there is room for its levels. Every
character pays for two calls of the reader. -/
def Reads (o : Outline) (cs : List Char) (j : Json) : Prop :=
  ∀ fuel room rest, EndsNumber rest → 2 * cs.length ≤ fuel →
    readValue o fuel room (cs ++ rest) = if j.levels ≤ room then some (j, rest) else none

/-- A text is read as the items of a list, up to its closing bracket. -/
def ReadsItems (o : Outline) (cs : List Char) (items : List Json) : Prop :=
  ∀ fuel room rest, 2 * cs.length < fuel →
    readItems o fuel room (cs ++ rest) =
      if itemsLevels items ≤ room then some (items, rest) else none

/-- A text is read as the members of an object, up to its closing brace. -/
def ReadsMembers (o : Outline) (cs : List Char) (members : List (String × Json)) : Prop :=
  ∀ fuel room rest, 2 * cs.length < fuel →
    readMembers o fuel room (cs ++ rest) =
      if membersLevels members ≤ room then some (members, rest) else none

variable {o part : Outline} {cs ws : List Char} {j : Json}

theorem Reads.after_space (h : Reads o cs j) (hws : Spaces ws) : Reads o (ws ++ cs) j := by
  intro fuel room rest hrest hfuel
  rw [List.append_assoc, ← readValue_skipSpace, skipSpace_append hws, readValue_skipSpace]
  apply h fuel room rest hrest
  rw [List.length_append] at hfuel
  omega

/-- A text without any list or object is read in any room. -/
theorem reads_scalar (hlevels : j.levels = 0) (hcs : cs ≠ [])
    (h : ∀ fuel room rest, EndsNumber rest →
      readValue o (fuel + 1) room (cs ++ rest) = some (j, rest)) : Reads o cs j := by
  intro fuel room rest hrest hfuel
  have hlength := List.length_pos_iff.2 hcs
  obtain ⟨fuel, rfl⟩ : ∃ n, fuel = n + 1 := ⟨fuel - 1, by omega⟩
  rw [h fuel room rest hrest, hlevels, if_pos (Nat.zero_le room)]

theorem reads_null : Reads o "null".toList .null := by
  apply reads_scalar (by rfl) (by decide)
  intro fuel room rest _
  rfl

theorem reads_bool (b : Bool) : Reads o (Json.chars (.bool b)) (.bool b) := by
  cases b
  all_goals
    apply reads_scalar (by rfl) (by decide)
    intro fuel room rest _
    rfl

theorem reads_str (s : String) : Reads o (quoteChars s) (.str s) := by
  apply reads_scalar (by rfl) (by simp [quoteChars])
  intro fuel room rest _
  have hchars : quoteChars s ++ rest = '"' :: (s.toList.flatMap escapeChar ++ '"' :: rest) := by
    simp [quoteChars]
  rw [hchars, readValue, skipSpace_cons (by decide)]
  simp only [stringBody_escaped, Option.map_some, String.ofList_toList]

theorem reads_num {n m : Number} (h : readNumber? n.chars = some (m, [])) :
    Reads o n.chars (.num m) := by
  obtain ⟨c, tail, hcs, hc⟩ := readNumber?_head h
  have hne (d : Char) (hd : (d == '-' || d.isDigit) = false) : c ≠ d := by
    rintro rfl
    rcases hc with rfl | hc
    · cases hd
    · rw [hc, Bool.or_true] at hd
      cases hd
  have hspace : isSpace c = false := by
    simp [isSpace, hne ' ' (by decide), hne '\n' (by decide), hne '\t' (by decide),
      hne '\r' (by decide)]
  apply reads_scalar (by rfl) (by rw [hcs]; exact List.cons_ne_nil c tail)
  intro fuel room rest hrest
  have hread := readNumber?_append hrest h
  rw [hcs, List.cons_append] at hread ⊢
  rw [readValue, skipSpace_cons hspace]
  split
  case h_8 => rw [hread, Option.map_some, List.nil_append]
  case h_1 heq => cases heq
  -- no other kind of value starts with a sign or a digit
  all_goals
    next heq => exact absurd (List.cons.inj heq).1 (hne _ (by decide))

theorem ReadsItems.last (h : Reads o.split.1 cs j) (hws : Spaces ws) :
    ReadsItems o (cs ++ (ws ++ [']'])) [j] := by
  intro fuel room rest hfuel
  obtain ⟨fuel, rfl⟩ : ∃ n, fuel = n + 1 := ⟨fuel - 1, by omega⟩
  have hlength : 2 * cs.length ≤ fuel := by
    rw [List.length_append] at hfuel
    omega
  have hvalue := h fuel room (ws ++ ']' :: rest) (endsNumber_spaces hws (by decide) rest) hlength
  have hclose : skipSpace (ws ++ ']' :: rest) = ']' :: rest := by
    rw [skipSpace_append hws, skipSpace_cons (by decide)]
  have hitems : itemsLevels [j] = j.levels := by
    rw [itemsLevels, itemsLevels, Nat.max_zero]
  rw [List.append_assoc, List.append_assoc, List.singleton_append, readItems_succ, hvalue, hitems]
  split
  · simp only [Option.bind_some, hclose]
  · rfl

theorem ReadsItems.cons {more : List Char} {items : List Json} (h : Reads o.split.1 cs j)
    (hmore : ReadsItems o.split.2 more items) : ReadsItems o (cs ++ ',' :: more) (j :: items) := by
  intro fuel room rest hfuel
  obtain ⟨fuel, rfl⟩ : ∃ n, fuel = n + 1 := ⟨fuel - 1, by omega⟩
  -- the comma pays for the call that reads the item and for the one that reads the others
  rw [List.length_append, List.length_cons] at hfuel
  have hvalue := h fuel room (',' :: (more ++ rest)) (endsNumber_cons (by decide) _) (by omega)
  have hrest := hmore fuel room rest (by omega)
  rw [List.append_assoc, List.cons_append, readItems_succ, hvalue, itemsLevels]
  by_cases hroom : j.levels ≤ room
  · rw [if_pos hroom, Option.bind_some]
    simp only [skipSpace_cons (c := ',') (by decide), hrest]
    by_cases hothers : itemsLevels items ≤ room
    · rw [if_pos hothers, if_pos (Nat.max_le.2 ⟨hroom, hothers⟩), Option.bind_some]
    · rw [if_neg hothers, if_neg (fun hmax => hothers (Nat.max_le.1 hmax).2), Option.bind_none]
  · rw [if_neg hroom, if_neg (fun hmax => hroom (Nat.max_le.1 hmax).1), Option.bind_none]

/-- The items of a list do not start with its closing bracket. -/
theorem ReadsItems.head_ne {items : List Json} (h : ReadsItems o cs items) (rest tail : List Char) :
    skipSpace (cs ++ rest) ≠ ']' :: tail := by
  intro hclose
  -- the reader would take the bracket for an item and fail, though there is room enough
  have hread := h (2 * cs.length + 2) (itemsLevels items) rest (by omega)
  rw [if_pos (Nat.le_refl _), ← readItems_skipSpace, hclose, readItems_succ, readValue,
    skipSpace_cons (by decide)] at hread
  cases hread

theorem Reads.list {items : List Json} (h : ReadsItems o cs items) :
    Reads o ('[' :: cs) (.arr items) := by
  intro fuel room rest _ hfuel
  rw [List.length_cons] at hfuel
  obtain ⟨fuel, rfl⟩ : ∃ n, fuel = n + 1 := ⟨fuel - 1, by omega⟩
  rw [List.cons_append, readValue_bracket, levels]
  -- opening the list takes a level, so that without room nothing is read
  by_cases hroom : room = 0
  · rw [if_pos hroom, if_neg (by omega)]
  · have hitems := h fuel (room - 1) rest (by omega)
    rw [if_neg hroom]
    split
    · next tail heq => exact absurd heq (h.head_ne rest tail)
    · rw [readItems_skipSpace, hitems]
      by_cases hlevels : itemsLevels items ≤ room - 1
      · rw [if_pos hlevels, if_pos (by omega), Option.map_some]
      · rw [if_neg hlevels, if_neg (by omega), Option.map_none]

theorem reads_emptyList : Reads o ['[', ']'] (.arr []) := by
  intro fuel room rest _ hfuel
  obtain ⟨fuel, rfl⟩ : ∃ n, fuel = n + 1 := ⟨fuel - 1, by simp at hfuel; omega⟩
  cases room <;> rfl

theorem ReadsMembers.after_space {members : List (String × Json)} (h : ReadsMembers o cs members)
    (hws : Spaces ws) : ReadsMembers o (ws ++ cs) members := by
  intro fuel room rest hfuel
  rw [List.append_assoc, ← readMembers_skipSpace, skipSpace_append hws, readMembers_skipSpace]
  apply h fuel room rest
  rw [List.length_append] at hfuel
  omega

theorem quoteChars_colon (key : String) (cs rest : List Char) :
    quoteChars key ++ ':' :: cs ++ rest =
      '"' :: (key.toList.flatMap escapeChar ++ '"' :: ':' :: (cs ++ rest)) := by
  simp [quoteChars]

theorem ReadsMembers.last {key : String} (hpart : o.member? key = some part)
    (h : Reads part cs j) (hws : Spaces ws) :
    ReadsMembers o (quoteChars key ++ ':' :: (cs ++ (ws ++ ['\x7d']))) [(key, j)] := by
  intro fuel room rest hfuel
  obtain ⟨fuel, rfl⟩ : ∃ n, fuel = n + 1 := ⟨fuel - 1, by omega⟩
  have hlength : 2 * cs.length ≤ fuel := by
    simp only [List.length_append, List.length_cons] at hfuel
    omega
  have hvalue := h fuel room (ws ++ '\x7d' :: rest) (endsNumber_spaces hws (by decide) rest) hlength
  have hclose : skipSpace (ws ++ '\x7d' :: rest) = '\x7d' :: rest := by
    rw [skipSpace_append hws, skipSpace_cons (by decide)]
  have hmembers : membersLevels [(key, j)] = j.levels := by
    rw [membersLevels, membersLevels, Nat.max_zero]
  rw [quoteChars_colon, List.append_assoc, List.append_assoc, List.singleton_append,
    readMembers_key (stringBody_escaped _ _) (skipSpace_cons (by decide) _) hpart, hvalue, hmembers]
  split
  · simp only [Option.bind_some, hclose]
  · rfl

theorem ReadsMembers.cons {key : String} {more : List Char} {members : List (String × Json)}
    (hpart : o.member? key = some part) (h : Reads part cs j)
    (hmore : ReadsMembers o more members) :
    ReadsMembers o (quoteChars key ++ ':' :: (cs ++ ',' :: more)) ((key, j) :: members) := by
  intro fuel room rest hfuel
  obtain ⟨fuel, rfl⟩ : ∃ n, fuel = n + 1 := ⟨fuel - 1, by omega⟩
  simp only [List.length_append, List.length_cons] at hfuel
  have hvalue := h fuel room (',' :: (more ++ rest)) (endsNumber_cons (by decide) _) (by omega)
  have hrest := hmore fuel room rest (by omega)
  rw [quoteChars_colon, List.append_assoc, List.cons_append,
    readMembers_key (stringBody_escaped _ _) (skipSpace_cons (by decide) _) hpart, hvalue,
    membersLevels]
  by_cases hroom : j.levels ≤ room
  · rw [if_pos hroom, Option.bind_some]
    simp only [skipSpace_cons (c := ',') (by decide), hrest]
    by_cases hothers : membersLevels members ≤ room
    · rw [if_pos hothers, if_pos (Nat.max_le.2 ⟨hroom, hothers⟩), Option.bind_some]
    · rw [if_neg hothers, if_neg (fun hmax => hothers (Nat.max_le.1 hmax).2), Option.bind_none]
  · rw [if_neg hroom, if_neg (fun hmax => hroom (Nat.max_le.1 hmax).1), Option.bind_none]

/-- The members of an object do not start with its closing brace. -/
theorem ReadsMembers.head_ne {members : List (String × Json)} (h : ReadsMembers o cs members)
    (rest tail : List Char) : skipSpace (cs ++ rest) ≠ '\x7d' :: tail := by
  intro hclose
  have hread := h (2 * cs.length + 2) (membersLevels members) rest (by omega)
  rw [if_pos (Nat.le_refl _), ← readMembers_skipSpace, hclose, readMembers,
    skipSpace_cons (by decide)] at hread
  cases hread

theorem Reads.object {members : List (String × Json)} (h : ReadsMembers o cs members) :
    Reads o ('\x7b' :: cs) (.obj members) := by
  intro fuel room rest _ hfuel
  rw [List.length_cons] at hfuel
  obtain ⟨fuel, rfl⟩ : ∃ n, fuel = n + 1 := ⟨fuel - 1, by omega⟩
  rw [List.cons_append, readValue_brace, levels]
  by_cases hroom : room = 0
  · rw [if_pos hroom, if_neg (by omega)]
  · have hmembers := h fuel (room - 1) rest (by omega)
    rw [if_neg hroom]
    split
    · next tail heq => exact absurd heq (h.head_ne rest tail)
    · rw [readMembers_skipSpace, hmembers]
      by_cases hlevels : membersLevels members ≤ room - 1
      · rw [if_pos hlevels, if_pos (by omega), Option.map_some]
      · rw [if_neg hlevels, if_neg (by omega), Option.map_none]

theorem reads_emptyObject : Reads o ['\x7b', '\x7d'] (.obj []) := by
  intro fuel room rest _ hfuel
  obtain ⟨fuel, rfl⟩ : ∃ n, fuel = n + 1 := ⟨fuel - 1, by simp at hfuel; omega⟩
  cases room <;> rfl

end Reads

end PageBuilder.Json
