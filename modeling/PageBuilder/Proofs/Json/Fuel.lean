import PageBuilder.Proofs.Json.Text

/-!
The fuel of the reader. Every part that is read leaves less of the text than there was, so twice the
length of the text is all that the reader of a whole value can use up: with more it reads the same.
-/

namespace PageBuilder.Json

section Steps

/-- What the reader does at the first characters of a value. -/
inductive Opening where
  | ready (value : Option (Json × List Char))
  | list (items : List Char)
  | object (members : List Char)

/-- A bracket has been read. An empty list or object is closed at once. -/
def entering (close : Char) (empty : Json) (inside : List Char → Opening) (cs : List Char) :
    Opening :=
  match skipSpace cs with
  | [] => inside []
  | c :: rest => if c = close then .ready (some (empty, rest)) else inside (c :: rest)

def opening (room : Nat) (cs : List Char) : Opening :=
  match skipSpace cs with
  | [] => .ready none
  | c :: rest =>
    if c = '"' then .ready ((stringBody rest).map fun r => (.str (String.ofList r.1), r.2))
    else if c = '[' then if room = 0 then .ready none else entering ']' (.arr []) .list rest
    else if c = '\x7b' then
      if room = 0 then .ready none else entering '\x7d' (.obj []) .object rest
    else if c = 'n' then .ready ((afterWord? "ull" rest).map fun r => (.null, r))
    else if c = 't' then .ready ((afterWord? "rue" rest).map fun r => (.bool true, r))
    else if c = 'f' then .ready ((afterWord? "alse" rest).map fun r => (.bool false, r))
    else .ready ((readNumber? (c :: rest)).map fun r => (.num r.1, r.2))

/-- An item or a member has been read. With the closing bracket it is the last one. -/
def afterPart {α : Type} (close : Char) (part : α)
    (others : List Char → Option (List α × List Char)) (cs : List Char) :
    Option (List α × List Char) :=
  match skipSpace cs with
  | [] => none
  | c :: rest =>
    if c = close then some ([part], rest)
    else if c = ',' then (others rest).map fun r => (part :: r.1, r.2)
    else none

/-- What follows a colon. -/
def afterColon? (cs : List Char) : Option (List Char) :=
  match skipSpace cs with
  | [] => none
  | c :: rest => if c = ':' then some rest else none

/-- The key of a member and what follows its colon. -/
def memberKey? (cs : List Char) : Option (String × List Char) :=
  match skipSpace cs with
  | [] => none
  | c :: rest =>
    if c = '"' then
      (stringBody rest).bind fun key =>
        (afterColon? key.2).map fun rest => (String.ofList key.1, rest)
    else none

theorem head_ne {c d : Char} {rest : List Char} (h : ∀ tail, c :: rest = d :: tail → False) :
    c ≠ d := fun hc => h rest (by rw [hc])

variable (fuel room : Nat) (cs : List Char)

theorem readValue_opening (o : Outline) :
    readValue o (fuel + 1) room cs =
      match opening room cs with
      | .ready r => r
      | .list rest => (readItems o fuel (room - 1) rest).map fun r => (.arr r.1, r.2)
      | .object rest => (readMembers o fuel (room - 1) rest).map fun r => (.obj r.1, r.2) := by
  rw [readValue, opening]
  generalize skipSpace cs = ds
  -- the reader looks for a closing bracket first, and only then for what is inside
  have hentering {close : Char} {empty : Json} {inside : List Char → Opening} (rest : List Char)
      (h : ∀ tail, skipSpace rest ≠ close :: tail) :
      entering close empty inside rest = inside (skipSpace rest) := by
    unfold entering
    generalize skipSpace rest = tail at h
    cases tail with
    | nil => rfl
    | cons c tail => exact if_neg fun hc => h tail (by rw [hc])
  split
  · rfl
  · rfl
  · next rest =>
    by_cases hroom : room = 0
    · simp [hroom]
    · simp only [hroom, if_false, Char.reduceEq, if_true]
      split
      · next heq => simp [entering, heq]
      · next hclose => rw [hentering rest hclose]
  · next rest =>
    by_cases hroom : room = 0
    · simp [hroom]
    · simp only [hroom, if_false, Char.reduceEq, if_true]
      split
      · next heq => simp [entering, heq]
      · next hclose => rw [hentering rest hclose]
  · rfl
  · rfl
  · rfl
  · next hquote hbracket hbrace hn ht hf =>
    cases ds with
    | nil => contradiction
    | cons c rest =>
      simp only [head_ne hquote, head_ne hbracket, head_ne hbrace, head_ne hn, head_ne ht,
        head_ne hf, if_false]

theorem readItems_afterPart :
    readItems .whole (fuel + 1) room cs =
      (readValue .whole fuel room cs).bind fun r =>
        afterPart ']' r.1 (readItems .whole fuel room) r.2 := by
  rw [readItems_succ]
  refine congrArg _ (funext fun r => ?_)
  unfold afterPart
  generalize skipSpace r.2 = ds
  split
  · rfl
  · exact Option.map_eq_bind.symm
  · next hclose hcomma =>
    cases ds with
    | nil => rfl
    | cons c rest =>
      simp only [head_ne hclose, head_ne hcomma, if_false]

theorem readMembers_afterPart :
    readMembers .whole (fuel + 1) room cs =
      (memberKey? cs).bind fun key => (readValue .whole fuel room key.2).bind fun r =>
        afterPart '\x7d' (key.1, r.1) (readMembers .whole fuel room) r.2 := by
  rw [readMembers, memberKey?]
  generalize skipSpace cs = ds
  split
  · next body =>
    simp only [if_true, Option.bind_eq_bind]
    cases stringBody body with
    | none => rfl
    | some key =>
      simp only [Option.bind_some, afterColon?]
      generalize skipSpace key.2 = es
      split
      · next value =>
        simp only [if_true, Option.map_some, Option.bind_some, Outline.member?]
        cases readValue .whole fuel room value with
        | none => rfl
        | some r =>
          simp only [Option.map_some, Option.bind_some, afterPart]
          generalize skipSpace r.2 = fs
          split
          · rfl
          · exact Option.map_eq_bind.symm
          · next hclose hcomma =>
            cases fs with
            | nil => rfl
            | cons c rest =>
              simp only [head_ne hclose, head_ne hcomma, if_false]
      · next hcolon =>
        cases es with
        | nil => rfl
        | cons c rest =>
          simp only [head_ne hcolon, if_false, Option.map_none, Option.bind_none]
  · next hquote =>
    cases ds with
    | nil => rfl
    | cons c rest =>
      simp only [head_ne hquote, if_false, Option.bind_none]

end Steps

section Shorter

theorem skipSpace_length_le (cs : List Char) : (skipSpace cs).length ≤ cs.length :=
  (List.dropWhile_suffix _).length_le

theorem skipSpace_cons_length {cs rest : List Char} {c : Char} (h : skipSpace cs = c :: rest) :
    rest.length < cs.length := by
  have hle := skipSpace_length_le cs
  rw [h, List.length_cons] at hle
  omega

theorem stringBody_shorter {cs : List Char} {r : List Char × List Char}
    (h : stringBody cs = some r) : r.2.length < cs.length := by
  fun_induction stringBody cs generalizing r
  case case2 =>
    obtain rfl := Option.some.inj h
    exact Nat.lt_succ_self _
  case case5 | case9 | case11 | case13 =>
    rename_i ih
    obtain ⟨s, hs, rfl⟩ := Option.map_eq_some_iff.1 h
    have hrest := ih hs
    simp only [List.length_cons]
    omega
  all_goals cases h

theorem fractionPart?_length_le {cs : List Char} {r : List Char × List Char}
    (h : fractionPart? cs = some r) : r.2.length ≤ cs.length := by
  unfold fractionPart? at h
  split at h
  · next tail =>
    have hle := (List.dropWhile_suffix Char.isDigit (l := tail)).length_le
    dsimp only at h
    split_ifs at h
    obtain rfl := Option.some.inj h
    exact Nat.le_succ_of_le hle
  · obtain rfl := Option.some.inj h
    exact Nat.le_refl _

theorem exponentSign_length_le (cs : List Char) : (exponentSign cs).2.length ≤ cs.length := by
  unfold exponentSign
  split <;> simp

theorem numberSign_length_le (cs : List Char) : (numberSign cs).2.length ≤ cs.length := by
  unfold numberSign
  split <;> simp

theorem exponentPart?_length_le {cs : List Char} {r : Option Int × List Char}
    (h : exponentPart? cs = some r) : r.2.length ≤ cs.length := by
  cases cs with
  | nil =>
    obtain rfl := Option.some.inj h
    exact Nat.le_refl _
  | cons e cs =>
    have hdigits := (List.dropWhile_suffix Char.isDigit (l := (exponentSign cs).2)).length_le
    have hsign := exponentSign_length_le cs
    rw [exponentPart?_cons] at h
    dsimp only at h
    split_ifs at h
    · obtain rfl := Option.some.inj h
      exact Nat.le_succ_of_le (Nat.le_trans hdigits hsign)
    · obtain rfl := Option.some.inj h
      exact Nat.le_succ_of_le (Nat.le_trans hdigits hsign)
    · obtain rfl := Option.some.inj h
      exact Nat.le_refl _

theorem readNumber?_shorter {cs : List Char} {r : Number × List Char}
    (h : readNumber? cs = some r) : r.2.length < cs.length := by
  obtain ⟨⟨written, rest⟩, hwritten, hread⟩ := Option.bind_eq_some_iff.1 h
  obtain ⟨value, -, hvalue⟩ := Option.bind_eq_some_iff.1 hread
  obtain rfl := Option.some.inj hvalue
  rw [writtenNumber?_eq] at hwritten
  dsimp only at hwritten
  split_ifs at hwritten with hwhole
  obtain ⟨f, hf, hwritten⟩ := Option.bind_eq_some_iff.1 hwritten
  obtain ⟨e, he, hwritten⟩ := Option.bind_eq_some_iff.1 hwritten
  obtain ⟨-, rfl⟩ := Prod.mk.inj (Option.some.inj hwritten)
  -- a number has a digit at least
  have hdigits : 0 < ((numberSign cs).2.takeWhile Char.isDigit).length := by
    refine List.length_pos_iff.2 fun hnil => hwhole ?_
    rw [hnil]
    rfl
  have hparts := congrArg List.length
    (List.takeWhile_append_dropWhile (p := Char.isDigit) (l := (numberSign cs).2))
  rw [List.length_append] at hparts
  have hfraction := fractionPart?_length_le hf
  have hexponent := exponentPart?_length_le he
  have hsign := numberSign_length_le cs
  change e.2.length < cs.length
  omega

theorem afterWord?_length_le {word : String} {cs rest : List Char}
    (h : afterWord? word cs = some rest) : rest.length ≤ cs.length := by
  unfold afterWord? at h
  split_ifs at h
  obtain rfl := Option.some.inj h
  exact (List.drop_suffix _ _).length_le

/-- What is left of a text after its opening is shorter than `length`. -/
def Opening.Within (length : Nat) : Opening → Prop
  | .ready value => ∀ r, value = some r → r.2.length < length
  | .list rest => rest.length < length
  | .object rest => rest.length < length

theorem entering_within {close : Char} {empty : Json} {inside : List Char → Opening}
    {cs : List Char} {length : Nat} (hlength : cs.length < length)
    (h : ∀ rest : List Char, rest.length < length → (inside rest).Within length) :
    (entering close empty inside cs).Within length := by
  have hspace := skipSpace_length_le cs
  unfold entering
  generalize skipSpace cs = ds at hspace
  cases ds with
  | nil => exact h [] (Nat.zero_lt_of_lt hlength)
  | cons c rest =>
    rw [List.length_cons] at hspace
    by_cases hc : c = close
    · dsimp only
      rw [if_pos hc]
      rintro r ⟨⟩
      change rest.length < length
      omega
    · dsimp only
      rw [if_neg hc]
      exact h _ (by rw [List.length_cons]; omega)

theorem opening_within (room : Nat) (cs : List Char) : (opening room cs).Within cs.length := by
  have hnone : (Opening.ready none).Within cs.length := by
    rintro r ⟨⟩
  unfold opening
  cases hspace : skipSpace cs with
  | nil => exact hnone
  | cons c rest =>
    have hrest := skipSpace_cons_length hspace
    have hword {word : String} {j : Json} :
        (Opening.ready ((afterWord? word rest).map fun r => (j, r))).Within cs.length := by
      intro r hr
      obtain ⟨after, hafter, rfl⟩ := Option.map_eq_some_iff.1 hr
      exact Nat.lt_of_le_of_lt (afterWord?_length_le hafter) hrest
    dsimp only
    split_ifs
    · intro r hr
      obtain ⟨body, hbody, rfl⟩ := Option.map_eq_some_iff.1 hr
      exact Nat.lt_trans (stringBody_shorter hbody) hrest
    · exact hnone
    · exact entering_within hrest fun _ h => h
    · exact hnone
    · exact entering_within hrest fun _ h => h
    · exact hword
    · exact hword
    · exact hword
    · intro r hr
      obtain ⟨number, hnumber, rfl⟩ := Option.map_eq_some_iff.1 hr
      have hshorter := readNumber?_shorter hnumber
      have hle := skipSpace_length_le cs
      rw [hspace] at hle
      exact Nat.lt_of_lt_of_le hshorter hle

theorem afterPart_shorter {α : Type} {close : Char} {part : α}
    {others : List Char → Option (List α × List Char)}
    (hothers : ∀ rest r, others rest = some r → r.2.length < rest.length) {cs : List Char}
    {r : List α × List Char} (h : afterPart close part others cs = some r) :
    r.2.length < cs.length := by
  unfold afterPart at h
  cases hspace : skipSpace cs with
  | nil =>
    rw [hspace] at h
    cases h
  | cons c rest =>
    have hrest := skipSpace_cons_length hspace
    rw [hspace] at h
    dsimp only at h
    split_ifs at h
    · obtain rfl := Option.some.inj h
      exact hrest
    · obtain ⟨more, hmore, rfl⟩ := Option.map_eq_some_iff.1 h
      have hmore := hothers rest more hmore
      exact Nat.lt_trans hmore hrest

theorem memberKey?_shorter {cs : List Char} {key : String × List Char}
    (h : memberKey? cs = some key) : key.2.length < cs.length := by
  unfold memberKey? at h
  cases hspace : skipSpace cs with
  | nil =>
    rw [hspace] at h
    cases h
  | cons c rest =>
    rw [hspace] at h
    dsimp only at h
    split_ifs at h
    obtain ⟨name, hname, h⟩ := Option.bind_eq_some_iff.1 h
    obtain ⟨value, hvalue, rfl⟩ := Option.map_eq_some_iff.1 h
    have hbody := stringBody_shorter hname
    have hrest := skipSpace_cons_length hspace
    have hcolon : value.length < name.2.length := by
      unfold afterColon? at hvalue
      cases hafter : skipSpace name.2 with
      | nil =>
        rw [hafter] at hvalue
        cases hvalue
      | cons d tail =>
        rw [hafter] at hvalue
        dsimp only at hvalue
        split_ifs at hvalue
        obtain rfl := Option.some.inj hvalue
        exact skipSpace_cons_length hafter
    change value.length < cs.length
    omega

/-- The reader leaves less than there was, however far it may go. -/
theorem read_shorter (fuel : Nat) :
    (∀ room cs r, readValue .whole fuel room cs = some r → r.2.length < cs.length) ∧
      (∀ room cs r, readItems .whole fuel room cs = some r → r.2.length < cs.length) ∧
      ∀ room cs r, readMembers .whole fuel room cs = some r → r.2.length < cs.length := by
  induction fuel with
  | zero => refine ⟨?_, ?_, ?_⟩ <;> rintro room cs r ⟨⟩
  | succ fuel ih =>
    obtain ⟨hvalue, hitems, hmembers⟩ := ih
    refine ⟨fun room cs r h => ?_, fun room cs r h => ?_, fun room cs r h => ?_⟩
    · have hwithin := opening_within room cs
      rw [readValue_opening] at h
      cases hopening : opening room cs with
      | ready value =>
        rw [hopening] at h hwithin
        exact hwithin r h
      | list rest =>
        rw [hopening] at h hwithin
        obtain ⟨items, hread, rfl⟩ := Option.map_eq_some_iff.1 h
        exact Nat.lt_trans (hitems _ _ _ hread) hwithin
      | object rest =>
        rw [hopening] at h hwithin
        obtain ⟨members, hread, rfl⟩ := Option.map_eq_some_iff.1 h
        exact Nat.lt_trans (hmembers _ _ _ hread) hwithin
    · rw [readItems_afterPart] at h
      obtain ⟨item, hitem, h⟩ := Option.bind_eq_some_iff.1 h
      exact Nat.lt_trans (afterPart_shorter (hitems room) h) (hvalue _ _ _ hitem)
    · rw [readMembers_afterPart] at h
      obtain ⟨key, hkey, h⟩ := Option.bind_eq_some_iff.1 h
      obtain ⟨member, hmember, h⟩ := Option.bind_eq_some_iff.1 h
      have hfirst := Nat.lt_trans (hvalue _ _ _ hmember) (memberKey?_shorter hkey)
      exact Nat.lt_trans (afterPart_shorter (hmembers room) h) hfirst

end Shorter

section Enough

theorem afterPart_congr {α : Type} {close : Char} {part : α}
    {others others' : List Char → Option (List α × List Char)} {cs : List Char}
    (h : ∀ rest : List Char, rest.length < cs.length → others rest = others' rest) :
    afterPart close part others cs = afterPart close part others' cs := by
  unfold afterPart
  cases hspace : skipSpace cs with
  | nil => rfl
  | cons c rest =>
    dsimp only
    rw [h rest (skipSpace_cons_length hspace)]

/-- With twice the length of a text as fuel the reader does not stop for want of it. Opening a list
or an object takes up a character and a call, an item or a member a character and a call as well. -/
theorem read_enough (fuel fuel' : Nat) :
    (∀ room cs, 2 * cs.length ≤ fuel → 2 * cs.length ≤ fuel' →
        readValue .whole fuel room cs = readValue .whole fuel' room cs) ∧
      (∀ room cs, 2 * cs.length < fuel → 2 * cs.length < fuel' →
        readItems .whole fuel room cs = readItems .whole fuel' room cs) ∧
      ∀ room cs, 2 * cs.length < fuel → 2 * cs.length < fuel' →
        readMembers .whole fuel room cs = readMembers .whole fuel' room cs := by
  induction fuel generalizing fuel' with
  | zero =>
    -- without fuel there can be no text either, and nothing is read of it with any fuel
    refine ⟨fun room cs h _ => ?_, fun room cs h _ => ?_, fun room cs h _ => ?_⟩
    · obtain rfl := List.length_eq_zero_iff.1 (show cs.length = 0 by omega)
      cases fuel' with
      | zero => rfl
      | succ fuel' => rfl
    · omega
    · omega
  | succ fuel ih =>
    cases fuel' with
    | zero =>
      refine ⟨fun room cs _ h => ?_, fun room cs _ h => ?_, fun room cs _ h => ?_⟩
      · obtain rfl := List.length_eq_zero_iff.1 (show cs.length = 0 by omega)
        rfl
      · omega
      · omega
    | succ fuel' =>
      obtain ⟨hvalue, hitems, hmembers⟩ := ih fuel'
      refine ⟨fun room cs h h' => ?_, fun room cs h h' => ?_, fun room cs h h' => ?_⟩
      · have hwithin := opening_within room cs
        rw [readValue_opening, readValue_opening]
        cases hopening : opening room cs with
        | ready value => rfl
        | list rest =>
          rw [hopening, Opening.Within] at hwithin
          dsimp only
          rw [hitems _ rest (by omega) (by omega)]
        | object rest =>
          rw [hopening, Opening.Within] at hwithin
          dsimp only
          rw [hmembers _ rest (by omega) (by omega)]
      · rw [readItems_afterPart, readItems_afterPart, hvalue room cs (by omega) (by omega)]
        -- the item and the comma behind it leave room for the items that follow
        refine Option.bind_congr fun item hitem => afterPart_congr fun rest hrest => ?_
        have hleft := (read_shorter fuel').1 _ _ _ hitem
        exact hitems room rest (by omega) (by omega)
      · rw [readMembers_afterPart, readMembers_afterPart]
        refine Option.bind_congr fun key hkey => ?_
        have hcolon := memberKey?_shorter hkey
        rw [hvalue room key.2 (by omega) (by omega)]
        refine Option.bind_congr fun member hmember => afterPart_congr fun rest hrest => ?_
        have hleft := (read_shorter fuel').1 _ _ _ hmember
        exact hmembers room rest (by omega) (by omega)

/-- A text is read the same with all fuel that is enough for it. -/
theorem read?_eq {s : String} {fuel : Nat} (h : 2 * s.toList.length ≤ fuel) :
    read? s = (readValue .whole fuel maxNesting s.toList).bind fun r =>
      if (skipSpace r.2).isEmpty then some r.1 else none := by
  unfold read? readOutlined?
  dsimp only
  rw [(read_enough _ fuel).1 maxNesting s.toList (Nat.le_add_right _ 2) h]
  cases readValue .whole fuel maxNesting s.toList <;> rfl

end Enough

end PageBuilder.Json
