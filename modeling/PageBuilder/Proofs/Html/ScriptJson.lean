import PageBuilder.Proofs.Decimal.Numeral
import PageBuilder.Proofs.Html.Widgets
import PageBuilder.Proofs.Json.Alike
import PageBuilder.Proofs.Json.Fuel
import PageBuilder.Proofs.Json.Literal
import PageBuilder.Proofs.Json.Printed

/-!
JSON in scripts means what it meant before. The further escapes only ever stand for a character of a
string literal, so a reader that goes through both texts side by side is at the same place of the
same value all the time.
-/

namespace PageBuilder

open Json

/-- JSON texts that differ in how the characters of string literals are written, and in nothing
else. -/
inductive Twins : List Char → List Char → Prop
  | nil : Twins [] []
  | plain {c : Char} {cs ds : List Char} : c ≠ '"' → Twins cs ds → Twins (c :: cs) (c :: ds)
  | literal (s : List Char) {cs ds : List Char} : Twins cs ds →
      Twins ('"' :: (s.flatMap escapeChar ++ '"' :: cs))
        ('"' :: (s.flatMap scriptStringChar ++ '"' :: ds))

/-- Two readers have read the same and stand at the same place, or both have failed. -/
def Abreast {α : Type} (r s : Option (α × List Char)) : Prop :=
  Option.Rel (fun a b => a.1 = b.1 ∧ Twins a.2 b.2) r s

section Readers

variable {α β : Type} {r s : Option (α × List Char)} {cs ds : List Char}

theorem abreast_none : Abreast (none : Option (α × List Char)) none := .none

theorem abreast_some (a : α) (h : Twins cs ds) : Abreast (some (a, cs)) (some (a, ds)) :=
  .some ⟨rfl, h⟩

theorem Abreast.bind {f g : α × List Char → Option (β × List Char)} (h : Abreast r s)
    (hnext : ∀ a cs ds, Twins cs ds → Abreast (f (a, cs)) (g (a, ds))) :
    Abreast (r.bind f) (s.bind g) := by
  cases h with
  | none => exact .none
  | @some a b hab =>
    obtain ⟨a, cs⟩ := a
    obtain ⟨b, ds⟩ := b
    obtain ⟨rfl, htwins⟩ := hab
    exact hnext a cs ds htwins

theorem Abreast.map (f : α → β) (h : Abreast r s) :
    Abreast (r.map fun a => (f a.1, a.2)) (s.map fun a => (f a.1, a.2)) := by
  cases h with
  | none => exact .none
  | some hab => exact .some ⟨congrArg f hab.1, hab.2⟩

theorem Twins.dropWhile {p : Char → Bool} (hp : p '"' = false) (h : Twins cs ds) :
    Twins (cs.dropWhile p) (ds.dropWhile p) := by
  induction h with
  | nil => exact .nil
  | @plain c cs ds hc h ih =>
    rw [List.dropWhile_cons, List.dropWhile_cons]
    split
    · exact ih
    · exact .plain hc h
  | literal s h =>
    rw [List.dropWhile_cons, List.dropWhile_cons, hp]
    exact .literal s h

theorem Twins.takeWhile {p : Char → Bool} (hp : p '"' = false) (h : Twins cs ds) :
    cs.takeWhile p = ds.takeWhile p := by
  induction h with
  | nil => rfl
  | plain _ _ ih => rw [List.takeWhile_cons, List.takeWhile_cons, ih]
  | literal s h =>
    rw [List.takeWhile_cons, List.takeWhile_cons, hp]
    rfl

theorem Twins.skipSpace (h : Twins cs ds) : Twins (skipSpace cs) (skipSpace ds) :=
  h.dropWhile (by decide)

theorem Twins.isEmpty (h : Twins cs ds) : cs.isEmpty = ds.isEmpty := by
  cases h <;> rfl

theorem abreast_fractionPart? (h : Twins cs ds) :
    Abreast (fractionPart? cs) (fractionPart? ds) := by
  cases h with
  | nil => exact abreast_some _ .nil
  | @plain c cs ds hc h =>
    by_cases hpoint : c = '.'
    · subst hpoint
      rw [fractionPart?, fractionPart?, h.takeWhile (by decide)]
      split
      · exact abreast_none
      · exact abreast_some _ (h.dropWhile (by decide))
    · have hnone (rest : List Char) : fractionPart? (c :: rest) = some ([], c :: rest) := by
        simp [fractionPart?, hpoint]
      rw [hnone, hnone]
      exact abreast_some _ (.plain hc h)
  | literal s h => exact abreast_some _ (.literal s h)

theorem Twins.exponentSign (h : Twins cs ds) :
    (exponentSign cs).1 = (exponentSign ds).1 ∧
      Twins (exponentSign cs).2 (exponentSign ds).2 := by
  cases h with
  | nil => exact ⟨rfl, .nil⟩
  | @plain c cs ds hc h =>
    by_cases hminus : c = '-'
    · subst hminus
      exact ⟨rfl, h⟩
    · by_cases hplus : c = '+'
      · subst hplus
        exact ⟨rfl, h⟩
      · have hnone (rest : List Char) : Json.exponentSign (c :: rest) = (false, c :: rest) := by
          simp [Json.exponentSign, hminus, hplus]
        rw [hnone, hnone]
        exact ⟨rfl, .plain hc h⟩
  | literal s h => exact ⟨rfl, .literal s h⟩

theorem Twins.numberSign (h : Twins cs ds) :
    (numberSign cs).1 = (numberSign ds).1 ∧ Twins (numberSign cs).2 (numberSign ds).2 := by
  cases h with
  | nil => exact ⟨rfl, .nil⟩
  | @plain c cs ds hc h =>
    by_cases hminus : c = '-'
    · subst hminus
      exact ⟨rfl, h⟩
    · have hnone (rest : List Char) : Json.numberSign (c :: rest) = (false, c :: rest) := by
        simp [Json.numberSign, hminus]
      rw [hnone, hnone]
      exact ⟨rfl, .plain hc h⟩
  | literal s h => exact ⟨rfl, .literal s h⟩

theorem abreast_exponentPart? (h : Twins cs ds) :
    Abreast (Json.exponentPart? cs) (Json.exponentPart? ds) := by
  cases h with
  | nil => exact abreast_some _ .nil
  | @plain c cs ds hc h =>
    obtain ⟨hsign, hrest⟩ := h.exponentSign
    rw [exponentPart?_cons, exponentPart?_cons, hsign, hrest.takeWhile (by decide)]
    dsimp only
    split_ifs
    · exact abreast_none
    · exact abreast_some _ (hrest.dropWhile (by decide))
    · exact abreast_some _ (hrest.dropWhile (by decide))
    · exact abreast_some _ (.plain hc h)
  | literal s h => exact abreast_some _ (.literal s h)

theorem abreast_readNumber? (h : Twins cs ds) : Abreast (readNumber? cs) (readNumber? ds) := by
  have hwritten : Abreast (writtenNumber? cs) (writtenNumber? ds) := by
    obtain ⟨hsign, hrest⟩ := h.numberSign
    rw [writtenNumber?_eq, writtenNumber?_eq, hsign, hrest.takeWhile (by decide)]
    dsimp only
    split
    · exact abreast_none
    · refine (abreast_fractionPart? (hrest.dropWhile (by decide))).bind fun f cs ds h => ?_
      exact (abreast_exponentPart? h).bind fun e cs ds h => abreast_some _ h
  refine hwritten.bind fun n cs ds h => ?_
  dsimp only
  cases n.value? with
  | none => exact abreast_none
  | some value => exact abreast_some value h

theorem Twins.isPrefixOf {word : List Char} (hword : '"' ∉ word) (h : Twins cs ds) :
    word.isPrefixOf cs = word.isPrefixOf ds ∧
      (word.isPrefixOf cs = true → Twins (cs.drop word.length) (ds.drop word.length)) := by
  induction word generalizing cs ds with
  | nil => exact ⟨rfl, fun _ => h⟩
  | cons w word ih =>
    rw [List.mem_cons, not_or] at hword
    obtain ⟨hw, hword⟩ := hword
    cases h with
    | nil => exact ⟨rfl, fun _ => .nil⟩
    | plain _ h =>
      obtain ⟨hbegins, hdrop⟩ := ih hword h
      rw [List.isPrefixOf, List.isPrefixOf, hbegins]
      refine ⟨rfl, fun hboth => hdrop ?_⟩
      rw [hbegins]
      exact (Bool.and_eq_true_iff.1 hboth).2
    | literal s h =>
      have hne : (w == '"') = false := beq_eq_false_iff_ne.2 (Ne.symm hw)
      rw [List.isPrefixOf, List.isPrefixOf, hne]
      exact ⟨rfl, fun hfalse => nomatch hfalse⟩

/-- A word without quotes stands in both texts or in none of them. -/
theorem abreast_afterWord? {word : String} (hword : '"' ∉ word.toList) (a : α) (h : Twins cs ds) :
    Abreast ((afterWord? word cs).map fun r => (a, r))
      ((afterWord? word ds).map fun r => (a, r)) := by
  obtain ⟨hbegins, hdrop⟩ := h.isPrefixOf hword
  rw [String.length_toList] at hdrop
  rw [afterWord?, afterWord?, ← hbegins]
  split
  · next hboth => exact abreast_some a (hdrop hboth)
  · exact abreast_none

/-- The reader goes on in the same way in both texts. -/
inductive Opening.Abreast : Opening → Opening → Prop
  | ready {r s : Option (Json × List Char)} : PageBuilder.Abreast r s →
      Opening.Abreast (.ready r) (.ready s)
  | list {cs ds : List Char} : Twins cs ds → Opening.Abreast (.list cs) (.list ds)
  | object {cs ds : List Char} : Twins cs ds → Opening.Abreast (.object cs) (.object ds)

theorem entering_abreast {close : Char} (hclose : close ≠ '"') {empty : Json}
    {inside : List Char → Opening}
    (hinside : ∀ cs ds, Twins cs ds → Opening.Abreast (inside cs) (inside ds)) (h : Twins cs ds) :
    Opening.Abreast (entering close empty inside cs) (entering close empty inside ds) := by
  unfold entering
  have hspace := h.skipSpace
  generalize Json.skipSpace cs = cs, Json.skipSpace ds = ds at hspace ⊢
  cases hspace with
  | nil => exact hinside _ _ .nil
  | plain hc h =>
    dsimp only
    split
    · exact .ready (abreast_some _ h)
    · exact hinside _ _ (.plain hc h)
  | literal s h =>
    dsimp only
    rw [if_neg (Ne.symm hclose), if_neg (Ne.symm hclose)]
    exact hinside _ _ (.literal s h)

theorem opening_abreast (room : Nat) (h : Twins cs ds) :
    Opening.Abreast (opening room cs) (opening room ds) := by
  have hspace := h.skipSpace
  unfold opening
  generalize Json.skipSpace cs = cs, Json.skipSpace ds = ds at hspace ⊢
  cases hspace with
  | nil => exact .ready abreast_none
  | plain hc h =>
    dsimp only
    rw [if_neg hc, if_neg hc]
    split_ifs
    · exact .ready abreast_none
    · exact entering_abreast (by decide) (fun _ _ => .list) h
    · exact .ready abreast_none
    · exact entering_abreast (by decide) (fun _ _ => .object) h
    · exact .ready (abreast_afterWord? (by decide) _ h)
    · exact .ready (abreast_afterWord? (by decide) _ h)
    · exact .ready (abreast_afterWord? (by decide) _ h)
    · exact .ready ((abreast_readNumber? (.plain hc h)).map _)
  | literal s h =>
    -- both ways to write the literal are read as its characters
    dsimp only
    rw [if_pos rfl, if_pos rfl, stringBody_escaped, stringBody_scriptString]
    exact .ready (abreast_some _ h)

theorem abreast_afterPart {close : Char} (hclose : close ≠ '"') (part : α)
    {others : List Char → Option (List α × List Char)}
    (hothers : ∀ cs ds, Twins cs ds → Abreast (others cs) (others ds)) (h : Twins cs ds) :
    Abreast (afterPart close part others cs) (afterPart close part others ds) := by
  unfold afterPart
  have hspace := h.skipSpace
  generalize Json.skipSpace cs = cs, Json.skipSpace ds = ds at hspace ⊢
  cases hspace with
  | nil => exact abreast_none
  | plain hc h =>
    dsimp only
    split_ifs
    · exact abreast_some _ h
    · exact (hothers _ _ h).map _
    · exact abreast_none
  | literal s h =>
    dsimp only
    rw [if_neg (Ne.symm hclose), if_neg (Ne.symm hclose), if_neg (by decide), if_neg (by decide)]
    exact abreast_none

theorem abreast_afterColon? (a : α) (h : Twins cs ds) :
    Abreast ((afterColon? cs).map fun r => (a, r)) ((afterColon? ds).map fun r => (a, r)) := by
  have hspace := h.skipSpace
  unfold afterColon?
  generalize Json.skipSpace cs = cs, Json.skipSpace ds = ds at hspace ⊢
  cases hspace with
  | nil => exact abreast_none
  | plain hc h =>
    dsimp only
    split_ifs
    · exact abreast_some _ h
    · exact abreast_none
  | literal s h => exact abreast_none

theorem abreast_memberKey? (h : Twins cs ds) : Abreast (memberKey? cs) (memberKey? ds) := by
  have hspace := h.skipSpace
  unfold memberKey?
  generalize Json.skipSpace cs = cs, Json.skipSpace ds = ds at hspace ⊢
  cases hspace with
  | nil => exact abreast_none
  | plain hc h =>
    dsimp only
    rw [if_neg hc, if_neg hc]
    exact abreast_none
  | literal s h =>
    dsimp only
    rw [if_pos rfl, if_pos rfl, stringBody_escaped, stringBody_scriptString, Option.bind_some,
      Option.bind_some]
    exact abreast_afterColon? _ h

/-- Readers of two such texts stay abreast of each other. -/
theorem read_abreast (fuel : Nat) :
    (∀ room cs ds, Twins cs ds →
        Abreast (readValue .whole fuel room cs) (readValue .whole fuel room ds)) ∧
      (∀ room cs ds, Twins cs ds →
        Abreast (readItems .whole fuel room cs) (readItems .whole fuel room ds)) ∧
      ∀ room cs ds, Twins cs ds →
        Abreast (readMembers .whole fuel room cs) (readMembers .whole fuel room ds) := by
  induction fuel with
  | zero => exact ⟨fun _ _ _ _ => .none, fun _ _ _ _ => .none, fun _ _ _ _ => .none⟩
  | succ fuel ih =>
    obtain ⟨hvalue, hitems, hmembers⟩ := ih
    refine ⟨fun room cs ds h => ?_, fun room cs ds h => ?_, fun room cs ds h => ?_⟩
    · have hopening := opening_abreast room h
      rw [readValue_opening, readValue_opening]
      generalize opening room cs = first, opening room ds = second at hopening ⊢
      cases hopening with
      | ready h => exact h
      | list h => exact (hitems _ _ _ h).map _
      | object h => exact (hmembers _ _ _ h).map _
    · rw [readItems_afterPart, readItems_afterPart]
      exact (hvalue room cs ds h).bind fun item cs ds h =>
        abreast_afterPart (by decide) item (hitems room) h
    · rw [readMembers_afterPart, readMembers_afterPart]
      refine (abreast_memberKey? h).bind fun key cs ds h => ?_
      exact (hvalue room cs ds h).bind fun member cs ds h =>
        abreast_afterPart (by decide) (key, member) (hmembers room) h

theorem read?_eq_of_twins {s t : String} (h : Twins s.toList t.toList) :
    Json.read? s = Json.read? t := by
  -- the texts may have different lengths, but there is fuel that is enough for both
  obtain ⟨fuel, hs, ht⟩ : ∃ fuel, 2 * s.toList.length ≤ fuel ∧ 2 * t.toList.length ≤ fuel :=
    ⟨_, Nat.le_add_right _ _, Nat.le_add_left _ _⟩
  rw [read?_eq hs, read?_eq ht]
  have hread := (read_abreast fuel).1 maxNesting _ _ h
  generalize readValue .whole fuel maxNesting s.toList = r,
    readValue .whole fuel maxNesting t.toList = r' at hread ⊢
  cases hread with
  | none => rfl
  | @some a b hab =>
    obtain ⟨hvalue, hrest⟩ := hab
    rw [Option.bind_some, Option.bind_some, hvalue, hrest.skipSpace.isEmpty]

end Readers

section Written

variable {cs ds es fs : List Char}

theorem Twins.append (h : Twins cs ds) (hmore : Twins es fs) : Twins (cs ++ es) (ds ++ fs) := by
  induction h with
  | nil => exact hmore
  | plain hc _ ih => exact .plain hc ih
  | literal s _ ih =>
    simp only [List.cons_append, List.append_assoc]
    exact .literal s ih

/-- Outside of string literals there is nothing to escape. -/
theorem twins_plain (h : ∀ c ∈ cs, c ≠ '"' ∧ scriptChar c = [c]) :
    Twins cs (cs.flatMap scriptChar) := by
  induction cs with
  | nil => exact .nil
  | cons c cs ih =>
    obtain ⟨⟨hquote, hplain⟩, hcs⟩ := List.forall_mem_cons.1 h
    rw [List.flatMap_cons, hplain]
    exact .plain hquote (ih hcs)

theorem scriptChar_of_isNumeral {c : Char} (h : isNumeral c = true) : scriptChar c = [c] := by
  have hrange := toNat_of_isNumeral h
  unfold scriptChar
  split_ifs with hlt hgt hamp hline hparagraph
  · rw [hlt] at hrange
    exact absurd hrange (by decide)
  · rw [hgt] at hrange
    exact absurd hrange (by decide)
  · rw [hamp] at hrange
    exact absurd hrange (by decide)
  · omega
  · omega
  · rfl

theorem twins_number (n : Json.Number) : Twins n.chars (n.chars.flatMap scriptChar) := by
  refine twins_plain fun c hc => ⟨?_, scriptChar_of_isNumeral (n.chars_numeral c hc)⟩
  rintro rfl
  exact absurd (n.chars_numeral _ hc) (by decide)

theorem twins_quoteChars (s : String) :
    Twins (quoteChars s) ((quoteChars s).flatMap scriptChar) := by
  have hscript : (quoteChars s).flatMap scriptChar =
      '"' :: (s.toList.flatMap scriptStringChar ++ '"' :: []) := by
    have hjson := scriptJson_str s
    rw [scriptJson, String.toList_ofList] at hjson
    exact hjson
  have hquote : quoteChars s = '"' :: (s.toList.flatMap escapeChar ++ '"' :: []) := by
    simp [quoteChars]
  rw [hscript, hquote]
  exact .literal s.toList .nil

mutual

theorem twins_chars (j : Json) : Twins j.chars (j.chars.flatMap scriptChar) := by
  cases j with
  | null => exact twins_plain (by decide)
  | bool b => cases b <;> exact twins_plain (by decide)
  | num n => exact twins_number n
  | str s => exact twins_quoteChars s
  | arr items =>
    rw [Json.chars, List.flatMap_cons]
    exact .plain (by decide) (twins_itemChars items)
  | obj members =>
    rw [Json.chars, List.flatMap_cons]
    exact .plain (by decide) (twins_memberChars members)

theorem twins_itemChars (items : List Json) :
    Twins (itemChars items) ((itemChars items).flatMap scriptChar) := by
  cases items with
  | nil => exact twins_plain (by decide)
  | cons j rest =>
    have hfirst := twins_chars j
    -- the last item has the bracket behind it, and all others have a comma
    by_cases hrest : rest = []
    · subst hrest
      rw [itemChars, List.flatMap_append]
      exact hfirst.append (twins_plain (by decide))
    · rw [itemChars_cons j hrest, List.flatMap_append, List.flatMap_cons]
      exact hfirst.append (.plain (by decide) (twins_itemChars rest))

theorem twins_memberChars (members : List (String × Json)) :
    Twins (memberChars members) ((memberChars members).flatMap scriptChar) := by
  cases members with
  | nil => exact twins_plain (by decide)
  | cons m rest =>
    obtain ⟨k, j⟩ := m
    have hkey := twins_quoteChars k
    have hvalue := twins_chars j
    by_cases hrest : rest = []
    · subst hrest
      rw [memberChars_single, List.flatMap_append, List.flatMap_cons, List.flatMap_append]
      exact hkey.append (.plain (by decide) (hvalue.append (twins_plain (by decide))))
    · rw [memberChars_cons k j hrest, List.flatMap_append, List.flatMap_cons, List.flatMap_append,
        List.flatMap_cons]
      exact hkey.append
        (.plain (by decide) (hvalue.append (.plain (by decide) (twins_memberChars rest))))

end

/-- The further escapes do not change what a value is read as, or whether it is read at all. -/
theorem read?_scriptJson (j : Json) : Json.read? (scriptJson j) = Json.read? j.compact := by
  refine (read?_eq_of_twins ?_).symm
  rw [compact, scriptJson, String.toList_ofList, String.toList_ofList]
  exact twins_chars j

end Written

section Configurations

/-- A value that is not deep, with numbers of some kind. -/
structure Json.IsConfig (number : Number → Prop) (j : Json) : Prop where
  levels : j.levels ≤ 3
  numbers : j.Throughout number (fun _ => True)

theorem itemsLevels_le {items : List Json} {n : Nat} (h : ∀ j ∈ items, j.levels ≤ n) :
    itemsLevels items ≤ n := by
  induction items with
  | nil => exact Nat.zero_le n
  | cons j rest ih =>
    obtain ⟨hj, hrest⟩ := List.forall_mem_cons.1 h
    exact Nat.max_le.2 ⟨hj, ih hrest⟩

theorem membersLevels_le {members : List (String × Json)} {n : Nat}
    (h : ∀ m ∈ members, m.2.levels ≤ n) : membersLevels members ≤ n := by
  induction members with
  | nil => exact Nat.zero_le n
  | cons m rest ih =>
    obtain ⟨hm, hrest⟩ := List.forall_mem_cons.1 h
    exact Nat.max_le.2 ⟨hm, ih hrest⟩

/-- A configuration is made of its fields. -/
theorem ScriptBlock.isConfig_ofFields {number : Number → Prop} {b : Behavior}
    {fields : List (String × Json)}
    (h : ∀ e ∈ fields, e.2.levels ≤ 2 ∧ e.2.Throughout number (fun _ => True)) :
    (ScriptBlock.ofFields b fields).config.IsConfig number := by
  refine ⟨?_, trivial, membersThroughout_iff.2 fun m hm => ?_⟩
  · change membersLevels (SortedMap.ofList fields).entries + 1 ≤ 3
    have hle : membersLevels (SortedMap.ofList fields).entries ≤ 2 :=
      membersLevels_le fun m hm => (h m (SortedMap.mem_of_mem_ofList hm)).1
    omega
  · exact (h m (SortedMap.mem_of_mem_ofList hm)).2

theorem Json.IsSetting.isField {j : Json} (h : j.IsSetting) :
    j.levels ≤ 2 ∧ j.Throughout (fun n => ∃ k : Nat, n = .int k) (fun _ => True) := by
  cases j with
  | num n => exact ⟨Nat.zero_le 2, h⟩
  | arr items => exact absurd h id
  | obj members => exact absurd h id
  | _ => exact ⟨Nat.zero_le 2, trivial⟩

theorem Widget.isConfig (w : Widget) :
    w.script.config.IsConfig fun n => ∃ k : Nat, n = .int k := by
  refine ScriptBlock.isConfig_ofFields fun e he => ?_
  rcases List.mem_cons.1 he with rfl | he
  · exact (isSetting_str _).isField
  · exact (w.settings e he).isField

/-- The router's configuration holds no numbers at all. -/
theorem routerScript_isConfig (number : Number → Prop) (sections : Sections) :
    (routerScript sections).config.IsConfig number := by
  have hentry (s : Section) :
      (Json.obj [("id", .str s.id), ("slug", .str s.slug)]).levels = 1 := rfl
  refine ScriptBlock.isConfig_ofFields (List.forall_mem_cons.2 ⟨⟨?_, ?_⟩, ?_⟩)
  · change itemsLevels _ + 1 ≤ 2
    have hle : itemsLevels (sections.ordered.map fun s =>
        Json.obj [("id", .str s.id), ("slug", .str s.slug)]) ≤ 1 :=
      itemsLevels_le fun j hj => by
        obtain ⟨s, -, rfl⟩ := List.mem_map.1 hj
        exact Nat.le_of_eq (hentry s)
    omega
  · refine itemsThroughout_iff.2 fun j hj => ?_
    obtain ⟨s, -, rfl⟩ := List.mem_map.1 hj
    exact ⟨trivial, trivial, trivial, trivial⟩
  · refine List.forall_mem_singleton.2 ?_
    cases sections.home? <;> exact ⟨Nat.zero_le 2, trivial⟩

/-- A configuration is given to its script as it is if its counts are those of a machine. -/
theorem read?_scriptJson_eq {j : Json} (hlevels : j.levels ≤ maxNesting)
    (hwords : j.Throughout Number.IsWord (fun _ => True)) :
    Json.read? (scriptJson j) = some j := by
  have hexact := Throughout.mono (fun _ => Number.IsWord.readsItself) hwords
  rw [read?_scriptJson, read?_compact hexact, if_pos hlevels]

theorem read?_router (sections : Sections) :
    Json.read? (scriptJson (routerScript sections).config) =
      some (routerScript sections).config := by
  have hconfig := routerScript_isConfig Number.IsWord sections
  exact read?_scriptJson_eq (Nat.le_trans hconfig.levels (by decide)) hconfig.numbers

/-- Nothing that starts with an angle bracket stands in a configuration. -/
theorem not_infix_scriptJson (j : Json) (rest : List Char) :
    ¬ '<' :: rest <:+: (scriptJson j).toList := fun h =>
  (scriptJson_marks j (h.subset (List.mem_cons_self ..))).1 rfl

/-- JSON in a script holds no angle bracket, no ampersand and no line or paragraph separator, so
that it neither ends the script nor starts a comment in it, and it is read as the value's plain JSON
is read, or neither of the two is. A value whose numbers are integers of 64 bits is read as it is,
unless it is too deep. A script is its fixed lines around this text and nothing else. In a document
no configuration is too deep and none has other numbers than natural ones. -/
theorem scriptJson_keeps_meaning (j : Json) :
    (∀ c ∈ (scriptJson j).toList,
      c ≠ '<' ∧ c ≠ '>' ∧ c ≠ '&' ∧ c.toNat ≠ 0x2028 ∧ c.toNat ≠ 0x2029) ∧
    Json.read? (scriptJson j) = Json.read? j.compact ∧
    Json.parse? (scriptJson j) = Json.parse? j.compact ∧
    (j.levels ≤ maxNesting → j.Throughout Number.IsWord (fun _ => True) →
      Json.read? (scriptJson j) = some j) ∧
    (∀ behavior, (ScriptBlock.mk behavior j).text =
      ScriptBlock.opening ++ endedLines behavior.source ++ ScriptBlock.middle ++ scriptJson j ++
        ScriptBlock.ending) ∧
    ¬ "</script".toList <:+: (scriptJson j).toList ∧ ¬ "<!--".toList <:+: (scriptJson j).toList ∧
    ∀ sections options html, compileDocument sections options = .ok html →
      ∃ (body : Fragment) (tokens : List Token),
        sectionFragments ⟨sections, options⟩ (sections.home?.map Section.id) sections.ordered =
          .ok body ∧
        tokens = documentTokens sections options body ∧
        ((∀ c ∈ options.indent.toList, c ≠ '<') →
          ∃ rest, html = doctype ++ rest ∧ readTokens .content rest.toList = some tokens) ∧
        tokens.filterMap Token.raw? = stylesheetRead options.layout ::
          (routerScript sections :: body.scripts).map (ScriptBlock.read options.layout) ∧
        ∀ b ∈ routerScript sections :: body.scripts,
          b.config.levels ≤ maxNesting ∧
          b.config.Throughout (fun n => ∃ k : Nat, n = .int k) (fun _ => True) ∧
          (b.config.Throughout Number.IsWord (fun _ => True) →
            Json.read? (scriptJson b.config) = some b.config) := by
  have hread := read?_scriptJson j
  refine ⟨fun c hc => scriptChar_eq_self (scriptJson_plain j hc), hread, ?_, read?_scriptJson_eq,
    fun behavior => ScriptBlock.text_eq _, not_infix_scriptJson j _, not_infix_scriptJson j _, ?_⟩
  · rw [Json.parse?, Json.parse?, hread]
  · intro sections options html h
    obtain ⟨body, hbody, hhtml⟩ := compileDocument_eq h
    have hsound := sectionFragments_sound hbody
    refine ⟨body, _, hbody, rfl, fun hindent => ⟨_, hhtml, documentTokens_read hsound hindent⟩,
      documentTokens_raw hsound, fun b hb => ?_⟩
    have hconfig : b.config.IsConfig fun n => ∃ k : Nat, n = .int k := by
      rcases List.mem_cons.1 hb with rfl | hb
      · exact routerScript_isConfig _ sections
      · obtain ⟨ws, -, -, hscripts⟩ := document_widgets hbody
        rw [hscripts] at hb
        obtain ⟨w, -, rfl⟩ := List.mem_map.1 hb
        exact w.isConfig
    have hlevels : b.config.levels ≤ maxNesting := Nat.le_trans hconfig.levels (by decide)
    exact ⟨hlevels, hconfig.numbers, read?_scriptJson_eq hlevels⟩

/-- The marks next to a quote, a backslash and an escape that is part of the text. -/
theorem scriptJson_keeps_meaning_marks :
    let j := Json.obj [("</script>", .str "<!--\\u003c\\&\"\u2028")]
    scriptJson j =
        "\x7b\"\\u003c/script\\u003e\":\"\\u003c!--\\\\u003c\\\\\\u0026\\\"\\u2028\"\x7d" ∧
      Json.read? (scriptJson j) = some j := by
  refine ⟨by decide, ?_⟩
  exact (scriptJson_keeps_meaning _).2.2.2.1 (by decide) ⟨trivial, trivial, trivial⟩

end Configurations

end PageBuilder
