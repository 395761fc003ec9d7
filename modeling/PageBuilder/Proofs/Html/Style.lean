import PageBuilder.Html.Style
import PageBuilder.Proofs.Decimal.Numeral
import PageBuilder.Proofs.Text.Cut

/-!
Declarations read back. Each one is written up to a semicolon of its own, so a reader that cuts the
text at its semicolons finds what every entry of a style map wrote by itself. Values are checked and
bring no semicolon along, but names are written as they are: an entry is read as its one declaration
exactly when its key holds neither of the two separators and no white space at its ends.
-/

namespace PageBuilder

/-- A name that ends at the colon behind it and is left as it is by trimming. -/
structure IsProperty (cs : List Char) : Prop where
  semicolon : ';' ∉ cs
  colon : ':' ∉ cs
  first : ∀ c ∈ cs.head?, isBlank c = false
  last : ∀ c ∈ cs.getLast?, isBlank c = false

/-- A value that yields a declaration: a number, or a text without semicolons that is not blank. -/
def Json.isStyle : Json → Bool
  | .num _ => true
  | .str s => !s.toList.all isBlank && !s.toList.contains ';'
  | _ => false

namespace Declarations

/-- A part of a style text: what stands before its first colon, and what stands behind. -/
def readPart (part : List Char) : String × String :=
  (trim (String.ofList (part.takeWhile (· != ':'))),
    trim (String.ofList ((part.dropWhile (· != ':')).drop 1)))

/-- What stands between the semicolons of a style text. Blank parts do not count. -/
def read (css : List Char) : Declarations :=
  ((splitOnChar ';' css).filter fun part => !part.all isBlank).map readPart

/-- The declaration that an entry of a style map stands for. -/
def ofEntry (e : String × Json) : String × String :=
  (camelToKebab e.1, (styleText? (camelToKebab e.1) e.2).getD "")

section Reading

theorem read_append (cs ds : List Char) : read (cs ++ ';' :: ds) = read cs ++ read ds := by
  rw [read, splitOnChar_append, List.filter_append, List.map_append]
  rfl

theorem trim_cons_blank {c : Char} (h : isBlank c = true) (cs : List Char) :
    trim (String.ofList (c :: cs)) = trim (String.ofList cs) := by
  rw [trim, trim, String.toList_ofList, String.toList_ofList, trimChars_cons_blank h]

theorem readPart_cons_blank {c : Char} (h : isBlank c = true) (part : List Char) :
    readPart (c :: part) = readPart part := by
  have hcolon : (c != ':') = true := by
    rw [bne_iff_ne]
    rintro rfl
    revert h
    decide
  simp only [readPart, List.takeWhile_cons, List.dropWhile_cons, hcolon, if_true,
    trim_cons_blank h]

/-- White space in front of a declaration does not count. -/
theorem read_cons_blank {c : Char} (h : isBlank c = true) (cs : List Char) :
    read (c :: cs) = read cs := by
  have hc : ¬ c = ';' := by
    rintro rfl
    revert h
    decide
  rw [read, read, splitOnChar, if_neg hc]
  cases hparts : splitOnChar ';' cs with
  | nil => exact absurd hparts (splitOnChar_ne_nil _ _)
  | cons part parts =>
    -- the character belongs to the first part, which is as blank as before
    simp only [List.filter_cons, List.all_cons, h, Bool.true_and]
    split
    · rw [List.map_cons, List.map_cons, readPart_cons_blank h]
    · rfl

theorem line_toList (d : String × String) :
    (line d).toList = (d.1.toList ++ ':' :: ' ' :: d.2.toList) ++ [';'] := by
  simp [line]

theorem read_line (d : String × String) :
    read (line d).toList = read (d.1.toList ++ ':' :: ' ' :: d.2.toList) := by
  rw [line_toList, read_append]
  exact List.append_nil _

/-- Every declaration is read by itself, whatever stands before and behind it. -/
theorem read_css (ds : Declarations) :
    read ds.css.toList = ds.flatMap fun d => read (line d).toList := by
  induction ds with
  | nil => rfl
  | cons d rest ih =>
    cases rest with
    | nil => rw [css, List.flatMap_singleton]
    | cons next rest =>
      have htext : (css (d :: next :: rest)).toList =
          (d.1.toList ++ ':' :: ' ' :: d.2.toList) ++
            ';' :: ' ' :: (css (next :: rest)).toList := by
        simp [css, line]
      rw [htext, read_append, read_cons_blank (by decide), ih, ← read_line]
      rfl

/-- A name and a value that nothing can be taken for a separator in. -/
theorem read_line_of_isProperty {d : String × String} (hname : IsProperty d.1.toList)
    (hvalue : ';' ∉ d.2.toList) (htrim : trimChars d.2.toList = d.2.toList) :
    read (line d).toList = [d] := by
  have hbody : ';' ∉ d.1.toList ++ ':' :: ' ' :: d.2.toList := by
    simp [hname.semicolon, hvalue]
  have hcolon : ∀ c ∈ d.1.toList, (c != ':') = true := by
    intro c hc
    rw [bne_iff_ne]
    rintro rfl
    exact hname.colon hc
  have hfilled : (!(d.1.toList ++ ':' :: ' ' :: d.2.toList).all isBlank) = true := by
    have hmark : isBlank ':' = false := by decide
    simp [hmark]
  have hpart : readPart (d.1.toList ++ ':' :: ' ' :: d.2.toList) = d := by
    have hstop : (':' != ':') = false := by decide
    rw [readPart, List.takeWhile_append_of_pos hcolon, List.dropWhile_append_of_pos hcolon,
      List.takeWhile_cons_of_neg (by simp), List.dropWhile_cons_of_neg (by simp), List.append_nil,
      List.drop_one, List.tail_cons, trim, trim, String.toList_ofList, String.toList_ofList,
      trimChars_cons_blank (by decide), htrim, trimChars_eq hname.first hname.last,
      String.ofList_toList, String.ofList_toList]
  rw [read_line, read, splitOnChar_of_not_mem hbody]
  simp only [List.filter_cons, hfilled, if_true, List.filter_nil, List.map_singleton, hpart]

/-- Whatever is read has such a name. -/
theorem isProperty_of_mem_read {d : String × String} {cs : List Char} (h : d ∈ read cs) :
    IsProperty d.1.toList := by
  obtain ⟨part, hpart, rfl⟩ := List.mem_map.1 h
  have hsemicolon := not_mem_of_mem_splitOnChar (List.mem_of_mem_filter hpart)
  have hname : (readPart part).1.toList = trimChars (part.takeWhile (· != ':')) := by
    rw [readPart, trim, String.toList_ofList, String.toList_ofList]
  obtain ⟨hfirst, hlast⟩ := trimChars_ends (part.takeWhile (· != ':'))
  rw [hname]
  refine ⟨fun hmem => ?_, fun hmem => ?_, hfirst, hlast⟩
  · -- the text has been cut at every semicolon
    exact hsemicolon ((List.takeWhile_sublist _).subset (trimChars_subset _ hmem))
  · have hkept := List.mem_takeWhile_imp (trimChars_subset _ hmem)
    simp at hkept

end Reading

section Keys

theorem kebabChar_cases (c : Char) :
    kebabChar c = [c] ∨
      (isNumeral c = true ∧ ∃ small, isNumeral small = true ∧ kebabChar c = ['-', small]) := by
  unfold kebabChar
  split
  · next hupper =>
    have hrange : 65 ≤ c.toNat ∧ c.toNat ≤ 90 := isUpper_range hupper
    have hletter : ∀ n < 91, 65 ≤ n → isNumeral (Char.ofNat n) = true ∧
        isNumeral (Char.ofNat n).toLower = true := by decide
    have hc := hletter c.toNat (by omega) hrange.1
    rw [Char.ofNat_toNat] at hc
    exact Or.inr ⟨hc.1, _, hc.2, rfl⟩
  · exact Or.inl rfl

theorem mem_camelToKebab {d : Char} (hd : isNumeral d = false) (key : String) :
    d ∈ (camelToKebab key).toList ↔ d ∈ key.toList := by
  have hother {e : Char} (he : isNumeral e = true) : d ≠ e := by
    rintro rfl
    rw [hd] at he
    cases he
  rw [camelToKebab, String.toList_ofList, List.mem_flatMap]
  constructor
  · rintro ⟨c, hc, hmem⟩
    rcases kebabChar_cases c with hsame | ⟨-, small, hsmall, hdash⟩
    · rw [hsame, List.mem_singleton] at hmem
      exact hmem ▸ hc
    · rw [hdash, List.mem_pair] at hmem
      exact absurd hmem (not_or.2 ⟨hother (by decide), hother hsmall⟩)
  · intro hmem
    refine ⟨d, hmem, ?_⟩
    rcases kebabChar_cases d with hsame | ⟨hnumeral, -⟩
    · rw [hsame]
      exact List.mem_singleton_self d
    · exact absurd rfl (hother hnumeral)

theorem kebabChar_ends (c : Char) :
    (kebabChar c).head?.map isBlank = some (isBlank c) ∧
      (kebabChar c).getLast?.map isBlank = some (isBlank c) := by
  rcases kebabChar_cases c with hsame | ⟨hc, small, hsmall, hdash⟩
  · rw [hsame]
    exact ⟨rfl, rfl⟩
  · have hmark : isBlank '-' = false := by decide
    rw [hdash, isBlank_of_isNumeral hc]
    exact ⟨congrArg some hmark, congrArg some (isBlank_of_isNumeral hsmall)⟩

theorem camelToKebab_ends (key : String) :
    (camelToKebab key).toList.head?.map isBlank = key.toList.head?.map isBlank ∧
      (camelToKebab key).toList.getLast?.map isBlank = key.toList.getLast?.map isBlank := by
  rw [camelToKebab, String.toList_ofList]
  constructor
  · cases key.toList with
    | nil => rfl
    | cons c cs =>
      obtain ⟨d, hd, hblank⟩ := Option.map_eq_some_iff.1 (kebabChar_ends c).1
      rw [List.flatMap_cons, List.head?_append, hd, Option.some_or, Option.map_some, hblank]
      rfl
  · -- the last character of a key is written last, as one or two
    rcases List.eq_nil_or_concat key.toList with hnil | ⟨cs, c, hkey⟩
    · rw [hnil]
      rfl
    · obtain ⟨d, hd, hblank⟩ := Option.map_eq_some_iff.1 (kebabChar_ends c).2
      rw [hkey, List.concat_eq_append, List.flatMap_append, List.flatMap_singleton,
        List.getLast?_append, hd, Option.some_or, Option.map_some, hblank, List.getLast?_concat]
      rfl

theorem forall_isBlank_iff {o : Option Char} :
    (∀ c ∈ o, isBlank c = false) ↔ o.map isBlank ≠ some true := by
  cases o <;> simp

/-- Dashes in place of capitals change nothing about what a reader takes a name for. -/
theorem isProperty_camelToKebab (key : String) :
    IsProperty (camelToKebab key).toList ↔ IsProperty key.toList := by
  obtain ⟨hfirst, hlast⟩ := camelToKebab_ends key
  have hiff {cs : List Char} : IsProperty cs ↔ (';' ∉ cs ∧ ':' ∉ cs) ∧
      cs.head?.map isBlank ≠ some true ∧ cs.getLast?.map isBlank ≠ some true := by
    rw [← forall_isBlank_iff, ← forall_isBlank_iff]
    exact ⟨fun h => ⟨⟨h.1, h.2⟩, h.3, h.4⟩, fun h => ⟨h.1.1, h.1.2, h.2.1, h.2.2⟩⟩
  rw [hiff, hiff, hfirst, hlast, mem_camelToKebab (by decide), mem_camelToKebab (by decide)]

end Keys

section Entries

theorem trimChars_isEmpty (cs : List Char) : (trimChars cs).isEmpty = cs.all isBlank := by
  cases hall : cs.all isBlank with
  | true =>
    rw [trimChars, trimStartChars, List.dropWhile_eq_nil_iff.2 (List.all_eq_true.1 hall)]
    rfl
  | false =>
    obtain ⟨c, hc, hblank⟩ := List.all_eq_false.1 hall
    have hkept := mem_trimChars (eq_false_of_ne_true hblank) hc
    rw [List.isEmpty_eq_false_iff]
    exact List.ne_nil_of_mem hkept

/-- The text of a number holds no separator and no white space. -/
theorem styleText?_num (property : String) (n : Json.Number) :
    ∃ s, styleText? property (.num n) = some s ∧ Numeral s.toList := by
  refine ⟨_, rfl, ?_⟩
  split
  · exact numeral_plainNumber _
  · rw [formatPx_eq, String.toList_append]
    refine (numeral_pxNumber _).append ?_
    unfold Numeral
    decide

theorem styleText?_str (property s : String) :
    styleText? property (.str s) = if s.toList.all isBlank then none else some (trim s) := by
  have hempty : (trim s).isEmpty = s.toList.all isBlank := by
    rw [← trimChars_isEmpty, Bool.eq_iff_iff, String.isEmpty_iff, List.isEmpty_iff,
      ← String.toList_inj, trim, String.toList_ofList, String.toList_empty]
  rw [styleText?, hempty]

theorem not_mem_of_numeral {cs : List Char} (h : Numeral cs) : ';' ∉ cs := by
  intro hmem
  have hmark := h _ hmem
  revert hmark
  decide

theorem trim_contains (s : String) :
    (trim s).toList.contains ';' = s.toList.contains ';' := by
  rw [trim, String.toList_ofList, Bool.eq_iff_iff, List.contains_iff_mem, List.contains_iff_mem]
  exact ⟨fun h => trimChars_subset _ h, fun h => mem_trimChars (by decide) h⟩

theorem styleDeclaration?_eq (e : String × Json) :
    styleDeclaration? e.1 e.2 = if e.2.isStyle then some (ofEntry e) else none := by
  obtain ⟨key, value⟩ := e
  unfold styleDeclaration? ofEntry
  dsimp only
  cases value with
  | num n =>
    obtain ⟨s, hs, hnumeral⟩ := styleText?_num (camelToKebab key) n
    have hmark : s.toList.contains ';' = false := by
      simpa using not_mem_of_numeral hnumeral
    rw [hs, Option.filter_some, hmark]
    rfl
  | str s =>
    rw [styleText?_str, Json.isStyle]
    split
    · next hblank =>
      rw [hblank]
      rfl
    · next hfilled =>
      -- the trimmed text is looked at, and trimming drops no semicolon
      rw [Bool.not_eq_true] at hfilled
      rw [Option.filter_some, trim_contains, hfilled]
      cases s.toList.contains ';' <;> rfl
  | _ => rfl

/-- The declarations of a style map are those of its entries with a number or a text that is not
blank and has no semicolon. -/
theorem ofStyles_eq (styles : SortedMap Json) :
    ofStyles styles = (styles.entries.filter fun e => e.2.isStyle).map ofEntry := by
  rw [ofStyles, ← List.filterMap_eq_filter, ← List.filterMap_eq_map, List.filterMap_filterMap]
  refine List.filterMap_congr fun e _ => ?_
  rw [styleDeclaration?_eq]
  cases hstyle : e.2.isStyle <;> simp [Option.guard, hstyle]

/-- The value of an entry that counts is read as it is. -/
theorem ofEntry_value {e : String × Json} (h : e.2.isStyle = true) :
    ';' ∉ (ofEntry e).2.toList ∧ trimChars (ofEntry e).2.toList = (ofEntry e).2.toList := by
  obtain ⟨key, value⟩ := e
  unfold ofEntry
  dsimp only
  cases value with
  | num n =>
    obtain ⟨s, hs, hnumeral⟩ := styleText?_num (camelToKebab key) n
    rw [hs, Option.getD_some]
    exact ⟨not_mem_of_numeral hnumeral, hnumeral.unblank.trim⟩
  | str s =>
    obtain ⟨hfilled, hmark⟩ : s.toList.all isBlank = false ∧ s.toList.contains ';' = false := by
      simpa [Json.isStyle] using h
    rw [styleText?_str, hfilled, if_neg Bool.false_ne_true, Option.getD_some]
    refine ⟨?_, ?_⟩
    · rw [← trim_contains] at hmark
      simpa using hmark
    · obtain ⟨hfirst, hlast⟩ := trimChars_ends s.toList
      rw [trim, String.toList_ofList, trimChars_eq hfirst hlast]
  | _ => cases h

/-- An entry that counts is read as its declaration exactly when its key can be a name. -/
theorem read_ofEntry_iff {e : String × Json} (h : e.2.isStyle = true) :
    read (line (ofEntry e)).toList = [ofEntry e] ↔ IsProperty e.1.toList := by
  obtain ⟨hsemicolon, htrim⟩ := ofEntry_value h
  have hproperty : (ofEntry e).1 = camelToKebab e.1 := rfl
  rw [← isProperty_camelToKebab, ← hproperty]
  constructor
  · intro hread
    have hmem : ofEntry e ∈ read (line (ofEntry e)).toList := by
      rw [hread]
      exact List.mem_singleton_self _
    exact isProperty_of_mem_read hmem
  · intro hname
    exact read_line_of_isProperty hname hsemicolon htrim

end Entries

section Styles

/-- A style map yields a declaration for each entry that counts, in the order of the keys, and its
text is read entry by entry, so that no entry changes what another one says. It is read as just
these declarations if and only if each of the keys can be a name; a key that cannot be one adds to
its own declaration or changes it. -/
theorem styles_read_back_iff (styles : SortedMap Json) :
    let counted := styles.entries.filter fun e => e.2.isStyle
    ofStyles styles = counted.map ofEntry ∧
      read (ofStyles styles).css.toList =
        counted.flatMap (fun e => read (line (ofEntry e)).toList) ∧
      (∀ e ∈ counted, read (line (ofEntry e)).toList = [ofEntry e] ↔ IsProperty e.1.toList) ∧
      (read (ofStyles styles).css.toList = counted.map ofEntry ↔
        ∀ e ∈ counted, IsProperty e.1.toList) := by
  intro counted
  have hread : read (ofStyles styles).css.toList =
      counted.flatMap fun e => read (line (ofEntry e)).toList := by
    rw [read_css, ofStyles_eq, List.flatMap_map]
  have hentry : ∀ e ∈ counted,
      read (line (ofEntry e)).toList = [ofEntry e] ↔ IsProperty e.1.toList := by
    intro e he
    exact read_ofEntry_iff (List.mem_filter.1 he).2
  refine ⟨ofStyles_eq styles, hread, hentry, ?_, ?_⟩
  · intro hback e he
    have hmem : ofEntry e ∈ read (ofStyles styles).css.toList := by
      rw [hback]
      exact List.mem_map_of_mem he
    have hname : IsProperty (ofEntry e).1.toList := isProperty_of_mem_read hmem
    exact (isProperty_camelToKebab e.1).1 hname
  · intro hnames
    rw [hread, List.map_eq_flatMap]
    exact List.flatMap_congr fun e he => (hentry e he).2 (hnames e he)

/-- Numbers with and without a unit, a capital in a key, and a value that is left out. -/
def themeStyles : SortedMap Json :=
  .ofList [("color", .str " #333 "), ("fontSize", .num (.int 18)),
    ("left", .str "0; position: fixed"), ("lineHeight", .num (.float 1.5))]

theorem styles_read_back_iff_theme :
    (∀ e ∈ themeStyles.entries.filter fun e => e.2.isStyle, IsProperty e.1.toList) ∧
      read (ofStyles themeStyles).css.toList =
        [("color", "#333"), ("font-size", "18px"), ("line-height", "1.5")] := by
  have hnames : ∀ e ∈ themeStyles.entries.filter fun e => e.2.isStyle, IsProperty e.1.toList := by
    have hkeys : (themeStyles.entries.filter fun e => e.2.isStyle).map Prod.fst =
        ["color", "fontSize", "lineHeight"] := by decide +kernel
    intro e he
    have hkey := List.mem_map_of_mem (f := Prod.fst) he
    rw [hkeys] at hkey
    simp only [List.mem_cons, List.not_mem_nil, or_false] at hkey
    rcases hkey with hkey | hkey | hkey
    all_goals
      rw [hkey]
      refine ⟨by decide, by decide, ?_, ?_⟩ <;> rintro c ⟨⟩ <;> decide
  obtain ⟨-, -, -, hback⟩ := styles_read_back_iff themeStyles
  refine ⟨hnames, (hback.2 hnames).trans ?_⟩
  decide +kernel

/-- A key brings a declaration along. -/
theorem key_smuggles_declaration :
    let styles := SortedMap.ofList [("color: red; position", Json.str "fixed")]
    let counted := styles.entries.filter fun e => e.2.isStyle
    counted.map ofEntry = [("color: red; position", "fixed")] ∧
      read (ofStyles styles).css.toList = [("color", "red"), ("position", "fixed")] ∧
      read (ofStyles styles).css.toList ≠ counted.map ofEntry := by
  decide +kernel

end Styles

end Declarations

end PageBuilder
