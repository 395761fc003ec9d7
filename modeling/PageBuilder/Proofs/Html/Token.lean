import PageBuilder.Proofs.Html.Escape
import PageBuilder.Html.Tree

/-!
Reading markup back. A tag runs to the next `>`, attribute values stand in double quotes, and what a
style sheet or a script holds runs to its end tag. The reader is made for proofs about what is
written: it takes no more than the forms that the writer uses.
-/

namespace PageBuilder

/-- What a reader sees. Attribute values are still escaped. -/
inductive Token where
  | char (c : Char)
  | startTag (name : String) (attrs : List Attr)
  | endTag (name : String)
  /-- All that a style sheet or a script holds, with its start tag. -/
  | raw (name : String) (attrs : List Attr) (contents : List Char)

/-- The tags whose contents are no markup. -/
def rawTags : List String := ["style", "script"]

/-- Where a reader is inside a tag, once its name is over. -/
inductive AttrPlace where
  | between
  | name (taken : List Char)
  | equals (name : List Char)
  | value (name taken : List Char)

/-- The attributes of a tag. A slash at the end of the tag counts for nothing. -/
def readAttrs : AttrPlace → List Char → Option (List Attr)
  | .between, [] => some []
  | .between, c :: rest => if c = ' ' then readAttrs (.name []) rest else none
  | .name taken, [] =>
    if taken = [] then none
    else if taken = ['/'] then some []
    else some [flag (String.ofList taken)]
  | .name taken, c :: rest =>
    if c = '=' then readAttrs (.equals taken) rest
    else if c ≠ ' ' then readAttrs (.name (taken ++ [c])) rest
    else if taken = [] then none
    else (readAttrs (.name []) rest).map (flag (String.ofList taken) :: ·)
  | .equals _, [] => none
  | .equals name, c :: rest => if c = '"' then readAttrs (.value name []) rest else none
  | .value _ _, [] => none
  | .value name taken, c :: rest =>
    if c = '"' then
      (readAttrs .between rest).map (attr (String.ofList name) (String.ofList taken) :: ·)
    else readAttrs (.value name (taken ++ [c])) rest

/-- The tag with a text between its angle brackets. -/
def readTag : List Char → Option Token
  | '/' :: name => some (.endTag (String.ofList name))
  | inside =>
    (readAttrs .between (inside.dropWhile (· ≠ ' '))).map
      (.startTag (String.ofList (inside.takeWhile (· ≠ ' '))))

/-- Where a reader is. -/
inductive Place where
  | content
  | tag (taken : List Char)
  | raw (name : String) (attrs : List Attr) (taken : List Char)

/-- Where a reader is behind a tag. -/
def Token.next : Token → Place
  | .startTag name attrs => if name ∈ rawTags then .raw name attrs [] else .content
  | _ => .content

/-- The tokens of a text. A tag that is not closed makes it unreadable. -/
def readTokens : Place → List Char → Option (List Token)
  | .content, [] => some []
  | .content, c :: rest =>
    if c = '<' then readTokens (.tag []) rest else (readTokens .content rest).map (.char c :: ·)
  | .tag _, [] => none
  | .tag taken, c :: rest =>
    if c = '>' then (readTag taken).bind fun t => (readTokens t.next rest).map (t :: ·)
    else readTokens (.tag (taken ++ [c])) rest
  | .raw _ _ _, [] => none
  | .raw name attrs taken, c :: rest =>
    if c = '<' ∧ ('/' :: name.toList ++ ['>']) <+: rest then
      (readTokens (.tag []) rest).map (.raw name attrs taken :: ·)
    else readTokens (.raw name attrs (taken ++ [c])) rest

/-- An end tag begins in a text. -/
def hasEndTag : List Char → Bool
  | [] => false
  | c :: rest => decide (c = '<' ∧ rest.head? = some '/') || hasEndTag rest

/-- The tags that are never closed. -/
def voidTags : List String := ["img", "input", "meta"]

/-- The tags that are open behind a token, innermost first. An end tag has to close the innermost
one. -/
def Token.nest (opened : List String) : Token → Option (List String)
  | .startTag name _ => some (if name ∈ voidTags then opened else name :: opened)
  | .endTag name =>
    match opened with
    | [] => none
    | top :: outer => if name = top then some outer else none
  | .char _ | .raw _ _ _ => some opened

/-- All tags are closed in order, but for the void ones. -/
def Balanced (tokens : List Token) : Prop := tokens.foldlM Token.nest [] = some []

/-- A style sheet or a script with its attributes and all that it holds. -/
def Token.raw? : Token → Option (String × List Attr × List Char)
  | .raw name attrs contents => some (name, attrs, contents)
  | _ => none

/-- A content that starts with a text is read as these tokens and the tokens of the rest. -/
def Reads (text : List Char) (tokens : List Token) : Prop :=
  ∀ rest, readTokens .content (text ++ rest) = (readTokens .content rest).map (tokens ++ ·)

/-- Tokens that close all tags they open. -/
def Closed (tokens : List Token) : Prop := ∀ opened, tokens.foldlM Token.nest opened = some opened

/-- A name of letters, digits and dashes. -/
def IsName (name : String) : Prop :=
  name.toList ≠ [] ∧ ∀ c ∈ name.toList, c.isAlphanum = true ∨ c = '-'

instance : DecidablePred IsName := fun _ => inferInstanceAs (Decidable (_ ∧ _))

/-- The attribute as a reader sees it. -/
def Attr.written (a : Attr) : Attr := ⟨a.name, a.value.map escapeHtml⟩

theorem IsName.not_mem {name : String} (h : IsName name) {c : Char}
    (hletter : c.isAlphanum = false) (hdash : c ≠ '-') : c ∉ name.toList := by
  intro hc
  rcases h.2 c hc with hc | hc
  · rw [hletter] at hc
    cases hc
  · exact hdash hc

section Attributes

theorem readAttrs_name (taken : List Char) {name : List Char} (rest : List Char)
    (hblank : ' ' ∉ name) (hequals : '=' ∉ name) :
    readAttrs (.name taken) (name ++ rest) = readAttrs (.name (taken ++ name)) rest := by
  induction name generalizing taken with
  | nil => rw [List.nil_append, List.append_nil]
  | cons c name ih =>
    rw [List.mem_cons, not_or] at hblank hequals
    rw [List.cons_append, readAttrs, if_neg (Ne.symm hequals.1), if_pos (Ne.symm hblank.1),
      ih _ hblank.2 hequals.2, List.append_assoc]
    rfl

theorem readAttrs_value (name taken : List Char) {value : List Char} (rest : List Char)
    (h : '"' ∉ value) :
    readAttrs (.value name taken) (value ++ '"' :: rest) =
      (readAttrs .between rest).map
        (attr (String.ofList name) (String.ofList (taken ++ value)) :: ·) := by
  induction value generalizing taken with
  | nil => rw [List.nil_append, readAttrs, if_pos rfl, List.append_nil]
  | cons c value ih =>
    rw [List.mem_cons, not_or] at h
    rw [List.cons_append, readAttrs, if_neg (Ne.symm h.1), ih _ h.2, List.append_assoc]
    rfl

/-- What may follow an attribute: nothing, or a blank. -/
def StartsBlank (rest : List Char) : Prop := ∀ c ∈ rest.head?, c = ' '

theorem readAttrs_attr {a : Attr} (h : IsName a.name) {rest : List Char}
    (hrest : StartsBlank rest) :
    readAttrs .between (a.text.toList ++ rest) =
      (readAttrs .between rest).map (a.written :: ·) := by
  obtain ⟨name, value⟩ := a
  have hblank : ' ' ∉ name.toList := h.not_mem (by decide) (by decide)
  have hequals : '=' ∉ name.toList := h.not_mem (by decide) (by decide)
  have hslash : name.toList ≠ ['/'] := by
    intro hname
    refine h.not_mem (c := '/') (by decide) (by decide) ?_
    rw [hname]
    exact List.mem_singleton.2 rfl
  cases value with
  | some v =>
    have hquote : '"' ∉ (escapeHtml v).toList := fun hc => (escapeHtml_plain v hc).2.2 rfl
    have htext : (Attr.text ⟨name, some v⟩).toList ++ rest =
        ' ' :: (name.toList ++ '=' :: '"' :: ((escapeHtml v).toList ++ '"' :: rest)) := by
      simp [Attr.text]
    rw [htext, readAttrs, if_pos rfl, readAttrs_name _ _ hblank hequals, readAttrs, if_pos rfl,
      readAttrs, if_pos rfl, readAttrs_value _ _ _ hquote]
    simp [Attr.written, attr]
  | none =>
    have htext : (Attr.text ⟨name, none⟩).toList ++ rest = ' ' :: (name.toList ++ rest) := by
      simp [Attr.text]
    rw [htext, readAttrs, if_pos rfl, readAttrs_name _ _ hblank hequals, List.nil_append]
    -- the name is over where the tag ends or the next attribute begins
    cases rest with
    | nil => simp [readAttrs, h.1, hslash, Attr.written, flag]
    | cons c rest =>
      obtain rfl : c = ' ' := hrest c rfl
      simp [readAttrs, h.1, Attr.written, flag]

theorem startsBlank_attrsText (attrs : List Attr) {rest : List Char} (h : StartsBlank rest) :
    StartsBlank ((attrsText attrs).toList ++ rest) := by
  cases attrs with
  | nil => simpa [attrsText] using h
  | cons a attrs =>
    obtain ⟨name, value⟩ := a
    cases value <;> simp [attrsText, Attr.text, StartsBlank]

theorem readAttrs_attrsText {attrs : List Attr} (h : ∀ a ∈ attrs, IsName a.name)
    {rest : List Char} (hrest : StartsBlank rest) :
    readAttrs .between ((attrsText attrs).toList ++ rest) =
      (readAttrs .between rest).map (attrs.map Attr.written ++ ·) := by
  induction attrs with
  | nil => simp [attrsText]
  | cons a attrs ih =>
    obtain ⟨hfirst, hothers⟩ := List.forall_mem_cons.1 h
    rw [attrsText, String.toList_append, List.append_assoc,
      readAttrs_attr hfirst (startsBlank_attrsText attrs hrest), ih hothers, Option.map_map]
    rfl

theorem attrsText_marks {attrs : List Attr} (h : ∀ a ∈ attrs, IsName a.name) {c : Char}
    (hc : c = '<' ∨ c = '>') : c ∉ (attrsText attrs).toList := by
  induction attrs with
  | nil => simp [attrsText]
  | cons a attrs ih =>
    obtain ⟨hfirst, hothers⟩ := List.forall_mem_cons.1 h
    have hname : c ∉ a.name.toList := by
      refine hfirst.not_mem ?_ ?_ <;> rcases hc with rfl | rfl <;> decide
    have hvalue (v : String) : c ∉ (escapeHtml v).toList := by
      intro hmem
      obtain ⟨hlt, hgt, -⟩ := escapeHtml_plain v hmem
      exact hc.elim hlt hgt
    have htext : c ∉ a.text.toList := by
      obtain ⟨name, value⟩ := a
      cases value <;> rcases hc with rfl | rfl <;> simp_all [Attr.text]
    rw [attrsText, String.toList_append, List.mem_append, not_or]
    exact ⟨htext, ih hothers⟩

end Attributes

section Tags

variable {name : String} {attrs : List Attr}

theorem readTag_start (hname : IsName name) (hattrs : ∀ a ∈ attrs, IsName a.name)
    {rest : List Char} (hrest : StartsBlank rest) :
    readTag (name.toList ++ ((attrsText attrs).toList ++ rest)) =
      (readAttrs .between rest).map fun more =>
        .startTag name (attrs.map Attr.written ++ more) := by
  have hletters : ∀ c ∈ name.toList, decide (c ≠ ' ') = true := by
    intro c hc
    simp only [decide_eq_true_eq]
    rintro rfl
    exact hname.not_mem (by decide) (by decide) hc
  have hafter : ((attrsText attrs).toList ++ rest).takeWhile (· ≠ ' ') = [] ∧
      ((attrsText attrs).toList ++ rest).dropWhile (· ≠ ' ') =
        (attrsText attrs).toList ++ rest := by
    have hblank := startsBlank_attrsText attrs hrest
    cases htext : (attrsText attrs).toList ++ rest with
    | nil => simp
    | cons c after =>
      rw [htext] at hblank
      obtain rfl : c = ' ' := hblank c rfl
      simp
  have hslash : ∀ more, name.toList ++ ((attrsText attrs).toList ++ rest) ≠ '/' :: more := by
    intro more htext
    cases hchars : name.toList with
    | nil => exact hname.1 hchars
    | cons c chars =>
      rw [hchars, List.cons_append, List.cons.injEq] at htext
      refine hname.not_mem (c := '/') (by decide) (by decide) ?_
      rw [hchars, htext.1]
      exact List.mem_cons_self ..
  rw [readTag]
  · rw [List.dropWhile_append_of_pos hletters, List.takeWhile_append_of_pos hletters, hafter.1,
      hafter.2, readAttrs_attrsText hattrs hrest, List.append_nil, String.ofList_toList,
      Option.map_map]
    rfl
  · exact hslash

theorem readTokens_tag (taken : List Char) {inside : List Char} (rest : List Char)
    (h : '>' ∉ inside) :
    readTokens (.tag taken) (inside ++ '>' :: rest) =
      (readTag (taken ++ inside)).bind fun t => (readTokens t.next rest).map (t :: ·) := by
  induction inside generalizing taken with
  | nil => rw [List.nil_append, readTokens, if_pos rfl, List.append_nil]
  | cons c inside ih =>
    rw [List.mem_cons, not_or] at h
    rw [List.cons_append, readTokens, if_neg (Ne.symm h.1), ih _ h.2, List.append_assoc]
    rfl

theorem hasEndTag_append (first : List Char) {second : List Char}
    (h : second.head? ≠ some '/') :
    hasEndTag (first ++ second) = (hasEndTag first || hasEndTag second) := by
  induction first with
  | nil => rfl
  | cons c first ih =>
    have hhead : (first ++ second).head? = some '/' ↔ first.head? = some '/' := by
      cases first with
      | nil => simpa [eq_comm] using h
      | cons d first => simp
    simp only [List.cons_append, hasEndTag, ih, hhead, Bool.or_assoc]

/-- A text without `<` begins no end tag, whatever follows it. -/
theorem hasEndTag_append_of_not_mem {first : List Char} (second : List Char) (h : '<' ∉ first) :
    hasEndTag (first ++ second) = hasEndTag second := by
  induction first with
  | nil => rfl
  | cons c first ih =>
    rw [List.mem_cons, not_or] at h
    simp [hasEndTag, Ne.symm h.1, ih h.2]

theorem hasEndTag_of_not_mem {text : List Char} (h : '<' ∉ text) : hasEndTag text = false := by
  have hall := hasEndTag_append_of_not_mem [] h
  rwa [List.append_nil] at hall

theorem endTag_toList (name : String) :
    (endTag name).toList = '<' :: '/' :: name.toList ++ ['>'] := by
  simp [endTag]

/-- Raw contents run to the end tag of their element. -/
theorem readTokens_raw (name : String) (attrs : List Attr) (taken : List Char)
    {contents : List Char} (rest : List Char) (h : hasEndTag contents = false) :
    readTokens (.raw name attrs taken) (contents ++ ((endTag name).toList ++ rest)) =
      (readTokens .content ((endTag name).toList ++ rest)).map
        (.raw name attrs (taken ++ contents) :: ·) := by
  induction contents generalizing taken with
  | nil =>
    have htext : (endTag name).toList ++ rest = '<' :: ('/' :: name.toList ++ ['>'] ++ rest) := by
      rw [endTag_toList]
      rfl
    rw [List.nil_append, List.append_nil, htext, readTokens, readTokens,
      if_pos ⟨rfl, List.prefix_append ..⟩, if_pos rfl]
  | cons c contents ih =>
    rw [hasEndTag, Bool.or_eq_false_iff, decide_eq_false_iff_not] at h
    have hgoes : ¬ (c = '<' ∧
        ('/' :: name.toList ++ ['>']) <+: contents ++ ((endTag name).toList ++ rest)) := by
      rintro ⟨hc, hbegins⟩
      refine h.1 ⟨hc, ?_⟩
      cases contents with
      | nil =>
        rw [endTag_toList] at hbegins
        simp [List.cons_prefix_cons] at hbegins
      | cons d contents =>
        rw [List.cons_append, List.cons_append, List.cons_prefix_cons] at hbegins
        rw [← hbegins.1]
        rfl
    rw [List.cons_append, readTokens, if_neg hgoes, ih _ h.2, List.append_assoc]
    rfl

theorem startTag_toList (name : String) (attrs : List Attr) :
    (startTag name attrs).toList =
      '<' :: (name.toList ++ ((attrsText attrs).toList ++ [])) ++ ['>'] := by
  simp [startTag]

end Tags

namespace Reads

variable {first second text : List Char} {tokens others : List Token}

theorem nil : Reads [] [] := by
  intro rest
  simp

theorem append (hfirst : Reads first tokens) (hsecond : Reads second others) :
    Reads (first ++ second) (tokens ++ others) := by
  intro rest
  rw [List.append_assoc, hfirst, hsecond, Option.map_map]
  congr 1
  funext more
  exact (List.append_assoc tokens others more).symm

theorem flatMap {α : Type} {f : α → List Char} {g : α → List Token} {xs : List α}
    (h : ∀ x ∈ xs, Reads (f x) (g x)) : Reads (xs.flatMap f) (xs.flatMap g) := by
  induction xs with
  | nil => exact nil
  | cons x xs ih =>
    obtain ⟨hfirst, hrest⟩ := List.forall_mem_cons.1 h
    exact hfirst.append (ih hrest)

theorem readTokens_eq (h : Reads text tokens) : readTokens .content text = some tokens := by
  have hall := h []
  simpa [readTokens] using hall

theorem chars (h : '<' ∉ text) : Reads text (text.map .char) := by
  intro rest
  induction text with
  | nil => simp
  | cons c text ih =>
    rw [List.mem_cons, not_or] at h
    rw [List.cons_append, readTokens, if_neg (Ne.symm h.1), ih h.2, Option.map_map]
    rfl

/-- A tag that has no raw contents is read as one token. -/
theorem tag {inside : List Char} {t : Token} (hinside : '>' ∉ inside) (ht : readTag inside = some t)
    (hnext : t.next = .content) : Reads ('<' :: inside ++ ['>']) [t] := by
  intro rest
  have htext : '<' :: inside ++ ['>'] ++ rest = '<' :: (inside ++ '>' :: rest) := by simp
  rw [htext, readTokens, if_pos rfl, readTokens_tag _ _ hinside, List.nil_append, ht,
    Option.bind_some, hnext]
  rfl

variable {name : String} {attrs : List Attr}

/-- What stands between the brackets of a start tag. -/
theorem readTag_inside (hname : IsName name) (hattrs : ∀ a ∈ attrs, IsName a.name)
    {rest : List Char} (hrest : rest = [] ∨ rest = [' ', '/']) :
    '>' ∉ name.toList ++ ((attrsText attrs).toList ++ rest) ∧
      readTag (name.toList ++ ((attrsText attrs).toList ++ rest)) =
        some (.startTag name (attrs.map Attr.written)) := by
  have hmark : '>' ∉ name.toList := hname.not_mem (by decide) (by decide)
  have hmarks : '>' ∉ (attrsText attrs).toList := attrsText_marks hattrs (Or.inr rfl)
  rcases hrest with rfl | rfl
  · refine ⟨by simp [hmark, hmarks], ?_⟩
    rw [readTag_start hname hattrs (by simp [StartsBlank])]
    simp [readAttrs]
  · refine ⟨by simp [hmark, hmarks], ?_⟩
    rw [readTag_start hname hattrs (by simp [StartsBlank])]
    simp [readAttrs]

theorem startTag (hname : IsName name) (hattrs : ∀ a ∈ attrs, IsName a.name)
    (hraw : name ∉ rawTags) :
    Reads (startTag name attrs).toList [.startTag name (attrs.map Attr.written)] := by
  obtain ⟨hmark, hread⟩ := readTag_inside hname hattrs (Or.inl rfl)
  rw [startTag_toList]
  exact tag hmark hread (if_neg hraw)

theorem void (hname : IsName name) (hattrs : ∀ a ∈ attrs, IsName a.name) (hraw : name ∉ rawTags)
    (slash : Bool) :
    Reads ("<" ++ name ++ attrsText attrs ++ (if slash then " />" else ">")).toList
      [.startTag name (attrs.map Attr.written)] := by
  cases slash with
  | false => exact startTag hname hattrs hraw
  | true =>
    obtain ⟨hmark, hread⟩ := readTag_inside hname hattrs (Or.inr rfl)
    have htext : ("<" ++ name ++ attrsText attrs ++ " />").toList =
        '<' :: (name.toList ++ ((attrsText attrs).toList ++ [' ', '/'])) ++ ['>'] := by
      simp
    simp only [if_true]
    rw [htext]
    exact tag hmark hread (if_neg hraw)

theorem endTag (hname : IsName name) : Reads (endTag name).toList [.endTag name] := by
  have hmark : '>' ∉ name.toList := hname.not_mem (by decide) (by decide)
  rw [endTag_toList]
  refine tag (by simp [hmark]) ?_ rfl
  rw [readTag, String.ofList_toList]

theorem rawElement (hname : IsName name) (hattrs : ∀ a ∈ attrs, IsName a.name)
    (hraw : name ∈ rawTags) {contents : List Char} (hcontents : hasEndTag contents = false) :
    Reads ((PageBuilder.startTag name attrs).toList ++ contents ++
        (PageBuilder.endTag name).toList)
      [.startTag name (attrs.map Attr.written), .raw name (attrs.map Attr.written) contents,
        .endTag name] := by
  intro rest
  -- the start tag leaves the content, and only its own end tag leads back
  obtain ⟨hmark, hread⟩ := readTag_inside hname hattrs (Or.inl rfl)
  have hopened (after : List Char) :
      readTokens .content ((PageBuilder.startTag name attrs).toList ++ after) =
        (readTokens (.raw name (attrs.map Attr.written) []) after).map
          (.startTag name (attrs.map Attr.written) :: ·) := by
    have htext : (PageBuilder.startTag name attrs).toList ++ after =
        '<' :: (name.toList ++ ((attrsText attrs).toList ++ []) ++ '>' :: after) := by
      rw [startTag_toList]
      simp
    rw [htext, readTokens, if_pos rfl, readTokens_tag _ _ hmark, List.nil_append, hread,
      Option.bind_some, Token.next, if_pos hraw]
  rw [List.append_assoc, List.append_assoc, hopened, readTokens_raw _ _ _ _ hcontents,
    endTag hname, Option.map_map, Option.map_map]
  rfl

end Reads

namespace Closed

variable {first second : List Token}

theorem nil : Closed [] := fun _ => rfl

theorem append (hfirst : Closed first) (hsecond : Closed second) : Closed (first ++ second) := by
  intro opened
  rw [List.foldlM_append, hfirst]
  exact hsecond opened

theorem flatMap {α : Type} {g : α → List Token} {xs : List α} (h : ∀ x ∈ xs, Closed (g x)) :
    Closed (xs.flatMap g) := by
  induction xs with
  | nil => exact nil
  | cons x xs ih =>
    obtain ⟨hfirst, hrest⟩ := List.forall_mem_cons.1 h
    exact hfirst.append (ih hrest)

theorem chars (text : List Char) : Closed (text.map .char) := by
  intro opened
  induction text with
  | nil => rfl
  | cons c text ih => exact ih

theorem raw (name : String) (attrs : List Attr) (contents : List Char) :
    Closed [.raw name attrs contents] := fun _ => rfl

theorem void {name : String} (h : name ∈ voidTags) (attrs : List Attr) :
    Closed [.startTag name attrs] := by
  intro opened
  simp only [List.foldlM_cons, List.foldlM_nil, Token.nest, if_pos h]
  rfl

theorem element {name : String} (h : name ∉ voidTags) (attrs : List Attr) (hinner : Closed first) :
    Closed (.startTag name attrs :: first ++ [.endTag name]) := by
  intro opened
  have hstart : Token.nest opened (.startTag name attrs) = some (name :: opened) := by
    rw [Token.nest, if_neg h]
  have hend : Token.nest (name :: opened) (.endTag name) = some opened := if_pos rfl
  rw [List.cons_append, List.foldlM_cons, hstart, Option.bind_eq_bind, Option.bind_some,
    List.foldlM_append, hinner, Option.bind_eq_bind, Option.bind_some, List.foldlM_cons, hend]
  rfl

end Closed

end PageBuilder
