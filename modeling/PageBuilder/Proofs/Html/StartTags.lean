import PageBuilder.Html.Document
import PageBuilder.Proofs.Html.Markup

/-!
The start tags of markup, in the order in which a reader meets them. The boxes of nodes are told by
their class, which no other element of a template has, and so are controls; only they have code that
a click runs.
-/

namespace PageBuilder

namespace Token

/-- The value of an attribute of a start tag, as it stands there. -/
def attr? (name : String) : Token → Option String
  | .startTag _ attrs => (attrs.find? fun a => a.name == name).bind Attr.value
  | _ => none

/-- One of the classes in a value is that of boxes. -/
def isBoxClass (classes : String) : Bool :=
  (classes.toList.splitOn ' ').contains "pc-el".toList

/-- The start tag of a box. -/
def isBox (t : Token) : Bool := (t.attr? "class").any isBoxClass

/-- The start of a tag that has an attribute, with a value or without. -/
def hasAttr (name : String) : Token → Bool
  | .startTag _ attrs => attrs.any fun a => a.name == name
  | _ => false

theorem hasAttr_of_attr? {name value : String} {t : Token} (h : t.attr? name = some value) :
    t.hasAttr name = true := by
  cases t with
  | startTag tag attrs =>
    obtain ⟨a, ha, -⟩ := Option.bind_eq_some_iff.1 h
    have hname := List.find?_some ha
    exact List.any_eq_true.2 ⟨a, List.mem_of_find?_eq_some ha, hname⟩
  | _ => cases h

/-- One of the classes in a value is that of buttons or of links in a header. -/
def isControlClass (classes : String) : Bool :=
  (classes.toList.splitOn ' ').any ["pc-button".toList, "pc-header-link".toList].contains

/-- The start tag of a button or of a link in a header. -/
def isControl (t : Token) : Bool := (t.attr? "class").any isControlClass

/-- The attributes by which scripts look for the boxes of their widgets. -/
def rootAttrs : List String := ["data-carousel", "data-cards-carousel", "data-catalog", "data-form"]

/-- A start tag with a meaning for scripts: a box, a control, code that a click runs, or the place
that a script looks for. -/
def isMarked (t : Token) : Bool :=
  t.isBox || t.isControl || t.hasAttr "onclick" || rootAttrs.any t.hasAttr

theorem isMarked_of_isBox {t : Token} (h : t.isBox = true) : t.isMarked = true := by
  simp [isMarked, h]

def isStart : Token → Bool
  | .startTag _ _ => true
  | _ => false

theorem isStart_of_isMarked {t : Token} (h : t.isMarked = true) : t.isStart = true := by
  cases t with
  | startTag => rfl
  | char => simp [isMarked, isBox, isControl, attr?, hasAttr] at h
  | endTag => simp [isMarked, isBox, isControl, attr?, hasAttr] at h
  | raw => simp [isMarked, isBox, isControl, attr?, hasAttr] at h

end Token

mutual

/-- The start tags in markup on one line, in order. -/
def Inline.startTags : Inline → List Token
  | .text _ | .entity _ => []
  | .void tag attrs _ => [.startTag tag (attrs.map Attr.written)]
  | .span tag attrs children =>
    .startTag tag (attrs.map Attr.written) :: Inline.allStartTags children

def Inline.allStartTags : List Inline → List Token
  | [] => []
  | i :: rest => i.startTags ++ Inline.allStartTags rest

end

mutual

/-- The start tags in markup, in order. -/
def Html.startTags : Html → List Token
  | .line content => content.startTags
  | .block tag attrs children =>
    .startTag tag (attrs.map Attr.written) :: Html.allStartTags children
  | .style _ => [.startTag "style" []]
  | .script name _ => [.startTag "script" [(attr "data-module" name).written]]

def Html.allStartTags : List Html → List Token
  | [] => []
  | h :: rest => h.startTags ++ Html.allStartTags rest

end

section StartTags

theorem Inline.allStartTags_eq (children : List Inline) :
    Inline.allStartTags children = children.flatMap Inline.startTags := by
  induction children with
  | nil => rfl
  | cons i rest ih => rw [Inline.allStartTags, ih, List.flatMap_cons]

theorem Html.allStartTags_eq (children : List Html) :
    Html.allStartTags children = children.flatMap Html.startTags := by
  induction children with
  | nil => rfl
  | cons x rest ih => rw [Html.allStartTags, ih, List.flatMap_cons]

theorem charTokens_noStart (s : String) : (charTokens s).filter Token.isStart = [] := by
  refine List.filter_eq_nil_iff.2 fun t ht => ?_
  obtain ⟨c, -, rfl⟩ := List.mem_map.1 ht
  exact Bool.false_ne_true

theorem LayoutStyle.lineTokens_start (style : LayoutStyle) (depth : Nat) (tokens : List Token) :
    (style.lineTokens depth tokens).filter Token.isStart = tokens.filter Token.isStart := by
  simp only [lineTokens, List.filter_append, charTokens_noStart, List.nil_append, List.append_nil]

mutual

theorem Inline.tokens_start (i : Inline) : i.tokens.filter Token.isStart = i.startTags := by
  cases i with
  | text s => exact charTokens_noStart _
  | entity name => exact charTokens_noStart _
  | void tag attrs slash => rfl
  | span tag attrs children =>
    rw [Inline.tokens, List.filter_append, List.filter_cons_of_pos rfl,
      Inline.allTokens_start children]
    exact List.append_nil _

theorem Inline.allTokens_start (children : List Inline) :
    (Inline.allTokens children).filter Token.isStart = Inline.allStartTags children := by
  cases children with
  | nil => rfl
  | cons i rest =>
    rw [Inline.allTokens, List.filter_append, i.tokens_start, Inline.allTokens_start rest,
      Inline.allStartTags]

end

mutual

/-- A reader sees the start tags in order, wherever lines are broken. -/
theorem Html.tokens_start (style : LayoutStyle) (depth : Nat) (x : Html) :
    (x.tokens style depth).filter Token.isStart = x.startTags := by
  cases x with
  | line content => rw [Html.tokens, style.lineTokens_start, content.tokens_start, Html.startTags]
  | block tag attrs children =>
    rw [Html.tokens, List.filter_append, List.filter_append, style.lineTokens_start,
      style.lineTokens_start, Html.allTokens_start style (depth + 1) children]
    exact List.append_nil _
  | style rules =>
    rw [Html.tokens, style.lineTokens_start]
    rfl
  | script name body =>
    rw [Html.tokens, style.lineTokens_start]
    rfl

theorem Html.allTokens_start (style : LayoutStyle) (depth : Nat) (children : List Html) :
    (Html.allTokens style depth children).filter Token.isStart = Html.allStartTags children := by
  cases children with
  | nil => rfl
  | cons x rest =>
    rw [Html.allTokens, List.filter_append, x.tokens_start style depth,
      Html.allTokens_start style depth rest, Html.allStartTags]

end

end StartTags

section Parts

variable {p q : Token → Bool}

theorem Html.allStartTags_append (first second : List Html) :
    Html.allStartTags (first ++ second) = Html.allStartTags first ++ Html.allStartTags second := by
  simp only [Html.allStartTags_eq, List.flatMap_append]

theorem Html.allStartTags_cons (x : Html) (rest : List Html) :
    Html.allStartTags (x :: rest) = Html.allStartTags [x] ++ Html.allStartTags rest :=
  Html.allStartTags_append [x] rest

/-- No start tag in markup is one of these. -/
def without (p : Token → Bool) (h : List Html) : Bool := (Html.allStartTags h).all fun t => !p t

theorem filter_of_without {h : List Html} (hh : without p h = true) :
    (Html.allStartTags h).filter p = [] := by
  refine List.filter_eq_nil_iff.2 fun t ht => ?_
  simpa using List.all_eq_true.1 hh t ht

theorem filter_block {tag : String} {attrs : List Attr} {children : List Html}
    (h : p (Token.startTag tag (attrs.map Attr.written)) = false) :
    (Html.allStartTags [.block tag attrs children]).filter p =
      (Html.allStartTags children).filter p := by
  rw [Html.allStartTags, Html.startTags, Html.allStartTags, List.append_nil,
    List.filter_cons_of_neg (by simp [h])]

theorem without_mono (hpq : ∀ t, q t = true → p t = true) {h : List Html}
    (hh : without p h = true) : without q h = true := by
  refine List.all_eq_true.2 fun t ht => ?_
  have hp : p t = false := by simpa using List.all_eq_true.1 hh t ht
  cases hq : q t with
  | false => rfl
  | true => rw [hpq t hq] at hp; cases hp

theorem without_append (first second : List Html) :
    without p (first ++ second) = (without p first && without p second) := by
  rw [without, Html.allStartTags_append, List.all_append]
  rfl

theorem without_cons (x : Html) (rest : List Html) :
    without p (x :: rest) = (without p [x] && without p rest) := without_append [x] rest

theorem without_htmlIf {c : Bool} {h : List Html} (hh : without p h = true) :
    without p (htmlIf c h) = true := by
  unfold htmlIf
  split
  · exact hh
  · rfl

theorem without_of_forall {h : List Html} (hh : ∀ x ∈ h, without p [x] = true) :
    without p h = true := by
  induction h with
  | nil => rfl
  | cons x rest ih =>
    obtain ⟨hx, hrest⟩ := List.forall_mem_cons.1 hh
    rw [without_cons, hx, ih hrest, Bool.and_self]

theorem without_block {tag : String} {attrs : List Attr} {children : List Html}
    (htag : p (Token.startTag tag (attrs.map Attr.written)) = false)
    (h : without p children = true) : without p [.block tag attrs children] = true := by
  unfold without at h ⊢
  rw [Html.allStartTags, Html.startTags, Html.allStartTags, List.append_nil, List.all_cons, htag, h]
  rfl

theorem cardParts_unmarked (image alt title content : String) :
    without Token.isMarked (cardParts image alt title content) = true := by
  unfold cardParts
  rw [without_append, without_htmlIf rfl, Bool.true_and, divBlock]
  refine without_block rfl ?_
  rw [without_append, spanUnlessEmpty, without_htmlIf rfl, spanUnlessEmpty, without_htmlIf rfl]
  rfl

theorem slideHtml_unmarked (index : Nat) (slide : Json) :
    without Token.isMarked [slideHtml index slide] = true := by
  unfold slideHtml activeClass
  refine without_block ?_ ?_
  · split <;> rfl
  · rw [without_append, without_htmlIf rfl, Bool.true_and]
    refine without_htmlIf (without_block rfl ?_)
    rw [without_append, spanUnlessEmpty, without_htmlIf rfl, spanUnlessEmpty, without_htmlIf rfl]
    rfl

theorem dotHtml_unmarked (index : Nat) : without Token.isMarked [dotHtml index] = true := by
  unfold dotHtml activeClass
  split <;> rfl

theorem carouselParts_unmarked (slides : List Json) (arrowsShown dotsShown : Bool) :
    without Token.isMarked ([divBlock "pc-carousel-track" (slides.mapIdx slideHtml)] ++
      htmlIf arrowsShown (arrows "carousel") ++ htmlIf dotsShown
        [divBlock "pc-carousel-dots" ((List.range slides.length).map dotHtml)]) = true := by
  rw [without_append, without_append, without_htmlIf rfl, Bool.and_true, Bool.and_eq_true]
  constructor
  · refine without_block rfl (without_of_forall fun x hx => ?_)
    obtain ⟨i, hi, rfl⟩ := List.mem_mapIdx.1 hx
    exact slideHtml_unmarked i _
  · refine without_htmlIf (without_block rfl (without_of_forall fun x hx => ?_))
    obtain ⟨i, -, rfl⟩ := List.mem_map.1 hx
    exact dotHtml_unmarked i

theorem catalogParts_unmarked (title placeholder : String) (search : Bool) :
    without Token.isMarked ([divBlock "pc-catalog-header" (spanUnlessEmpty "h2" [] title ++
        htmlIf search [catalogSearch placeholder])] ++
      (["breadcrumb", "families", "collections", "grid", "pagination"].map fun part =>
        textSpan "div" [attr "class" ("pc-catalog-" ++ part)] "") ++
      [textSpan "div" [attr "class" "pc-catalog-status", attr "aria-live" "polite"] "",
        catalogModal]) = true := by
  have hheader : without Token.isMarked (spanUnlessEmpty "h2" [] title ++
      htmlIf search [catalogSearch placeholder]) = true := by
    rw [without_append, spanUnlessEmpty, without_htmlIf rfl, without_htmlIf rfl]
    rfl
  rw [without_append, without_append, divBlock, without_block rfl hheader]
  rfl

theorem FormField.html_unmarked (f : FormField) : without Token.isMarked [f.html] = true := by
  unfold FormField.html
  dsimp only
  split
  · cases f.required <;> rfl
  · cases f.required <;> rfl

theorem formControls_unmarked (n : Node) : without Token.isMarked (formControls n) = true := by
  unfold formControls
  split
  · rw [without_append, without_of_forall]
    · rfl
    · intro x hx
      obtain ⟨f, -, rfl⟩ := List.mem_map.1 hx
      exact f.html_unmarked
  · rfl
  · rfl

theorem formParts_unmarked (n : Node) (title description : String) (status : Bool) :
    without Token.isMarked (spanUnlessEmpty "h3" [] title ++ spanUnlessEmpty "p" [] description ++
      formControls n ++ htmlIf status
        [textSpan "div" [attr "class" "pc-form-status", attr "aria-live" "polite"] ""]) = true := by
  rw [without_append, without_append, without_append, spanUnlessEmpty, without_htmlIf rfl,
    spanUnlessEmpty, without_htmlIf rfl, formControls_unmarked, without_htmlIf rfl]
  rfl

theorem headerLogo_unmarked (n : Node) : without Token.isMarked (headerLogo n) = true := by
  unfold headerLogo
  dsimp only
  split
  · rfl
  · exact without_htmlIf rfl

theorem scriptsHtml_unmarked (scripts : List ScriptBlock) :
    without Token.isMarked (scriptsHtml scripts) = true := by
  refine without_of_forall fun x hx => ?_
  obtain ⟨b, -, rfl⟩ := List.mem_map.1 hx
  rfl

theorem headHtml_unmarked (title : String) : without Token.isMarked [headHtml title] = true := rfl

/-- Cards hold no box, though they may hold a control. -/
theorem cardItem_boxless (ctx : DocumentContext) (card : Json) :
    without Token.isBox [cardItem ctx card] = true := by
  refine without_block rfl (without_block rfl ?_)
  rw [without_append, without_mono (fun _ => Token.isMarked_of_isBox) (cardParts_unmarked ..),
    Bool.true_and]
  exact without_htmlIf rfl

theorem headerNav_boxless (ctx : DocumentContext) (n : Node) :
    without Token.isBox (headerNav ctx n) = true := by
  unfold headerNav
  split
  · rfl
  · refine without_block rfl (without_of_forall fun x hx => ?_)
    obtain ⟨link, -, rfl⟩ := List.mem_map.1 hx
    rfl

end Parts

end PageBuilder
