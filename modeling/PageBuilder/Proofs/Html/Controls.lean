import PageBuilder.Proofs.Html.HomeFirst
import PageBuilder.Proofs.Html.Links
import PageBuilder.Proofs.Html.Placed
import PageBuilder.Proofs.Html.ScriptJson

/-!
Controls that open a section. Buttons, links in headers and the buttons of cards all look their
section up when the document is made: either it is there, and the control calls the router with the
id and shows the slug of one of the router's own entries, or the control calls nothing.
-/

namespace PageBuilder

/-- A control of a node: whether it is a link of a header, and the fields that tell where it
leads. -/
structure Control where
  isLink : Bool
  field : String → Option Json

/-- The id of the section that a control opens, if it is a nonempty text. -/
def Control.sectionId? (c : Control) : Option String :=
  ((c.field "sectionId").bind Json.str?).filter fun s => !s.isEmpty

/-- The buttons, links in headers and labelled cards that a node is shown with. -/
def Node.controls (n : Node) : List Control :=
  match n.type with
  | .button => [⟨false, n.props.get?⟩]
  | .header =>
    ((n.propItems "links").filter fun l => l.members?.isSome).map fun l => ⟨true, l.get?⟩
  | .cardsCarousel =>
    ((n.propItems "cards").filter fun card => !(itemText card ["buttonText"]).isEmpty).map
      fun card => ⟨false, card.get?⟩
  | _ => []

/-- The start tag of a button or of a link in a header, or of something else that runs code when it
is clicked. -/
def Token.isClickable (t : Token) : Bool := t.isControl || t.hasAttr "onclick"

/-- The values of all attributes with a name in a start tag, as they stand there. -/
def Token.given (name : String) : Token → List String
  | .startTag _ attrs => (attrs.filter fun a => a.name == name).filterMap Attr.value
  | _ => []

/-- The values of all attributes with a name in a start tag, with their entities decoded. -/
def Token.values (name : String) (t : Token) : List String :=
  (t.given name).map fun value => String.ofList (decodeEntities value.toList)

/-- The code that opens a section by an argument. -/
def sectionCall (argument : List Char) : List Char :=
  "navigateToSection(".toList ++ (argument ++ [')'])

/-- A start tag calls for a section by an argument and shows the way to it. -/
structure Token.OpensSection (t : Token) (argument : List Char) (s : Section) : Prop where
  code : t.values "onclick" = [String.ofList (sectionCall argument)]
  id : Json.parse? (String.ofList argument) = some (.str s.id)
  way : t.value? "data-href" = some ("#" ++ s.slug)
  href : t.value? "class" = some "pc-header-link" → t.value? "href" = some ("#" ++ s.slug)

/-- A start tag calls for a new window. -/
def Token.OpensWindow (t : Token) : Prop :=
  ∃ argument url, t.values "onclick" = [String.ofList (windowCall argument)] ∧
    Json.parse? (String.ofList argument) = some (.str url)

/-- How a control stands in a document: with a call for the section that it opens and the way to it,
or without a call when there is no such section. -/
structure Control.ShownAs (sections : Sections) (c : Control) (t : Token) : Prop where
  control : t.isControl = true
  link : t.value? "class" = some "pc-header-link" ↔ c.isLink = true
  live : ∀ id s, c.sectionId? = some id → sections.get? id = some s →
    ∃ argument, t.OpensSection argument s
  gone : ∀ id, c.sectionId? = some id → sections.get? id = none →
    t.hasAttr "onclick" = false ∧ t.value? "data-href" = some "#" ∧
    (c.isLink = true → t.value? "href" = some "#")
  other : c.sectionId? = none → t.values "onclick" = [] ∨ t.OpensWindow

section Calls

variable {isLink : Bool} {get? : String → Option Json}

theorem ofMembers_section {id : String} (h : Control.sectionId? ⟨isLink, get?⟩ = some id) :
    LinkTarget.ofMembers get? = .toSection id := by
  unfold Control.sectionId? at h
  simp only [LinkTarget.ofMembers, h]

theorem ofMembers_other (h : Control.sectionId? ⟨isLink, get?⟩ = none) :
    (∃ url, LinkTarget.ofMembers get? = .toUrl url) ∨ LinkTarget.ofMembers get? = .nowhere := by
  unfold Control.sectionId? at h
  simp only [LinkTarget.ofMembers, h]
  split <;> simp_all

theorem scriptCall_sectionCall (id : String) :
    scriptCall "navigateToSection" id =
      String.ofList (sectionCall (scriptJson (.str id)).toList) := by
  apply String.toList_inj.1
  unfold scriptCall sectionCall
  simp only [String.toList_append, String.toList_ofList, List.append_assoc]
  rfl

theorem sectionCall_inj {first second : List Char} :
    sectionCall first = sectionCall second ↔ first = second := by
  unfold sectionCall
  rw [List.append_cancel_left_eq, List.append_cancel_right_eq]

theorem windowCall_ne_sectionCall (first second : List Char) :
    windowCall first ≠ sectionCall second := by
  intro h
  have hletters : (windowCall first).head? = some 'w' ∧ (sectionCall second).head? = some 'n' :=
    ⟨rfl, rfl⟩
  rw [h, hletters.2] at hletters
  exact absurd hletters.1 (by decide)

theorem Token.value?_eq {name s : String} {t : Token} (h : t.attr? name = some (escapeHtml s)) :
    t.value? name = some s := by
  rw [Token.value?, h, Option.map_some, decodeEntities_escapeHtml, String.ofList_toList]

theorem Token.values_eq {name s : String} {t : Token} (h : t.given name = [escapeHtml s]) :
    t.values name = [s] := by
  rw [Token.values, h, List.map_singleton, decodeEntities_escapeHtml, String.ofList_toList]

theorem Token.hasAttr_of_values {name value : String} {t : Token} (h : value ∈ t.values name) :
    t.hasAttr name = true := by
  obtain ⟨written, hgiven, -⟩ := List.mem_map.1 h
  cases t with
  | startTag tag attrs =>
    obtain ⟨a, ha, -⟩ := List.mem_filterMap.1 hgiven
    obtain ⟨hmem, hname⟩ := List.mem_filter.1 ha
    exact List.any_eq_true.2 ⟨a, hmem, hname⟩
  | _ => cases hgiven

end Calls

section Shown

variable {sections : Sections} {c : Control} {t : Token}

/-- What the attributes of a control are when it opens a section. -/
theorem Control.ShownAs.ofSection {id : String} (hid : c.sectionId? = some id)
    (hcontrol : t.isControl = true)
    (hlink : t.value? "class" = some "pc-header-link" ↔ c.isLink = true)
    (hattrs : match sections.get? id with
      | some s =>
        t.given "onclick" = [escapeHtml (scriptCall "navigateToSection" s.id)] ∧
        t.attr? "data-href" = some (escapeHtml ("#" ++ s.slug)) ∧
        (c.isLink = true → t.attr? "href" = some (escapeHtml ("#" ++ s.slug)))
      | none =>
        t.hasAttr "onclick" = false ∧ t.attr? "data-href" = some (escapeHtml "#") ∧
        (c.isLink = true → t.attr? "href" = some (escapeHtml "#"))) :
    c.ShownAs sections t where
  control := hcontrol
  link := hlink
  live own s hown hs := by
    obtain rfl : id = own := Option.some.inj (hid.symm.trans hown)
    rw [hs] at hattrs
    obtain ⟨hcode, hslug, hhref⟩ := hattrs
    refine ⟨(scriptJson (.str s.id)).toList, ?_, ?_, Token.value?_eq hslug,
      fun hclass => Token.value?_eq (hhref (hlink.1 hclass))⟩
    · rw [Token.values_eq hcode, scriptCall_sectionCall]
    · rw [String.ofList_toList, parse?_scriptJson_str]
  gone own hown hs := by
    obtain rfl : id = own := Option.some.inj (hid.symm.trans hown)
    rw [hs] at hattrs
    obtain ⟨hcode, hslug, hhref⟩ := hattrs
    exact ⟨hcode, Token.value?_eq hslug, fun hlink => Token.value?_eq (hhref hlink)⟩
  other hnone := absurd (hid.symm.trans hnone) (by simp)

theorem Control.ShownAs.ofOther (hid : c.sectionId? = none) (hcontrol : t.isControl = true)
    (hlink : t.value? "class" = some "pc-header-link" ↔ c.isLink = true)
    (hcode : t.given "onclick" = [] ∨
      ∃ url, t.given "onclick" = [escapeHtml (scriptCall "window.open" url)]) :
    c.ShownAs sections t where
  control := hcontrol
  link := hlink
  live own s hown := absurd (hid.symm.trans hown) (by simp)
  gone own hown := absurd (hid.symm.trans hown) (by simp)
  other _ := by
    rcases hcode with hnone | ⟨url, hcall⟩
    · exact .inl (congrArg (List.map _) hnone)
    · refine .inr ⟨(scriptJson (.str url)).toList, url, ?_, ?_⟩
      · rw [Token.values_eq hcall, ← scriptCall_window, String.ofList_toList]
      · rw [String.ofList_toList, parse?_scriptJson_str]

theorem Token.isMarked_of_isClickable (h : t.isClickable = true) : t.isMarked = true := by
  unfold Token.isClickable at h
  unfold Token.isMarked
  rcases Bool.or_eq_true_iff.1 h with h | h <;> simp [h]

theorem Control.ShownAs.isClickable (h : c.ShownAs sections t) : t.isClickable = true := by
  rw [Token.isClickable, h.control, Bool.true_or]

/-- The class of buttons is not that of links. -/
theorem class_ne_link {classes : String} (h : t.attr? "class" = some (escapeHtml classes))
    (hother : classes ≠ "pc-header-link") :
    t.value? "class" = some "pc-header-link" ↔ false = true := by
  rw [Token.value?_eq h, Option.some_inj]
  exact iff_of_false hother Bool.false_ne_true

variable (ctx : DocumentContext)

theorem headerLink_shownAs (link : Json) :
    ∃ t, Html.allStartTags [headerLink ctx link] = [t] ∧
      Control.ShownAs ctx.sections ⟨true, link.get?⟩ t := by
  unfold headerLink sectionLinkAttrs
  cases hid : Control.sectionId? ⟨true, link.get?⟩ with
  | some id =>
    rw [ofMembers_section hid]
    dsimp only
    refine ⟨_, rfl, .ofSection hid rfl (iff_of_true (Token.value?_eq rfl) rfl) ?_⟩
    cases ctx.sections.get? id <;> exact ⟨rfl, rfl, fun _ => rfl⟩
  | none =>
    rcases ofMembers_other hid with ⟨url, htarget⟩ | htarget
    · rw [htarget]
      exact ⟨_, rfl, .ofOther hid rfl (iff_of_true (Token.value?_eq rfl) rfl) (.inl rfl)⟩
    · rw [htarget]
      exact ⟨_, rfl, .ofOther hid rfl (iff_of_true (Token.value?_eq rfl) rfl) (.inl rfl)⟩

theorem cardButton_shownAs (card : Json) (hlabel : (itemText card ["buttonText"]).isEmpty = false) :
    ∃ t, Html.allStartTags (cardButton ctx card) = [t] ∧
      Control.ShownAs ctx.sections ⟨false, card.get?⟩ t := by
  have hclass : "pc-button" ≠ "pc-header-link" := by decide
  unfold cardButton sectionLinkAttrs spanUnlessEmpty
  dsimp only
  rw [hlabel]
  cases hid : Control.sectionId? ⟨false, card.get?⟩ with
  | some id =>
    rw [ofMembers_section hid]
    dsimp only
    refine ⟨_, rfl, .ofSection hid rfl (class_ne_link rfl hclass) ?_⟩
    cases ctx.sections.get? id <;> exact ⟨rfl, rfl, nofun⟩
  | none =>
    rcases ofMembers_other hid with ⟨url, htarget⟩ | htarget
    · rw [htarget]
      exact ⟨_, rfl, .ofOther hid rfl (class_ne_link rfl hclass) (.inr ⟨safeUrl url, rfl⟩)⟩
    · rw [htarget]
      exact ⟨_, rfl, .ofOther hid rfl (class_ne_link rfl hclass) (.inl rfl)⟩

variable {ctx} {n : Node} {placement : Placement}

theorem boxClass_isControlClass (t : ElementType) :
    Token.isControlClass (escapeHtml ("pc-el pc-" ++ typeClass t ++ formClass t)) =
      (t == .button) := by
  cases t <;> decide

/-- Among boxes only those of buttons are controls. -/
theorem boxTag_isControl (tag : String) (n : Node) (placement : Placement) (extra : Declarations)
    (attrs : List Attr) :
    (boxTag tag n placement extra attrs).isControl = (n.type == .button) := by
  have hclass : (boxTag tag n placement extra attrs).attr? "class" =
      some (escapeHtml ("pc-el pc-" ++ typeClass n.type ++ formClass n.type)) := rfl
  rw [Token.isControl, hclass, Option.any_some, boxClass_isControlClass]

theorem buttonFragment_shownAs (ctx : DocumentContext) (placement : Placement)
    (h : n.type = .button) :
    ∃ t, Html.allStartTags (buttonFragment ctx n placement).markup = [t] ∧
      Control.ShownAs ctx.sections ⟨false, n.props.get?⟩ t := by
  -- the box of a button is the control itself
  have hcontrol (tag : String) (attrs : List Attr) :
      (boxTag tag n placement [] attrs).isControl = true := by
    rw [boxTag_isControl, h]
    rfl
  have hclass : "pc-el pc-" ++ typeClass n.type ++ formClass n.type ≠ "pc-header-link" := by
    rw [h]
    decide
  unfold buttonFragment sectionLinkAttrs
  dsimp only
  cases hid : Control.sectionId? ⟨false, n.props.get?⟩ with
  | some id =>
    rw [ofMembers_section hid]
    dsimp only
    refine ⟨_, rfl, .ofSection hid (hcontrol ..) (class_ne_link rfl hclass) ?_⟩
    cases ctx.sections.get? id <;> exact ⟨rfl, rfl, nofun⟩
  | none =>
    rcases ofMembers_other hid with ⟨url, htarget⟩ | htarget
    · rw [htarget]
      exact ⟨_, rfl, .ofOther hid (hcontrol ..) (class_ne_link rfl hclass) (.inl rfl)⟩
    · rw [htarget]
      exact ⟨_, rfl, .ofOther hid (hcontrol ..) (class_ne_link rfl hclass) (.inl rfl)⟩

/-- Boxes of other nodes than buttons are not clicked. -/
theorem boxTag_clickless {tag : String} {extra : Declarations} {attrs : List Attr}
    (h : n.type ≠ .button) (hattrs : attrs.any (fun a => a.name == "onclick") = false) :
    (boxTag tag n placement extra attrs).isClickable = false := by
  have hcode : (boxTag tag n placement extra attrs).hasAttr "onclick" =
      attrs.any fun a => a.name == "onclick" := by
    rw [boxTag, Token.hasAttr, List.any_map, boxAttrs, List.any_append, List.any_append]
    exact Bool.or_false _
  rw [Token.isClickable, boxTag_isControl, beq_eq_false_iff_ne.2 h, hcode, hattrs]
  rfl

theorem leafFragment_clickless {tag : String} {attrs : List Attr} {content : List Inline}
    (h : n.type ≠ .button) (hattrs : attrs.any (fun a => a.name == "onclick") = false)
    (hcontent : Inline.allStartTags content = []) :
    without Token.isClickable (leafFragment n placement tag attrs content).markup = true := by
  have htags : Html.allStartTags (leafFragment n placement tag attrs content).markup =
      [boxTag tag n placement [] attrs] := by
    simp only [leafFragment, Fragment.ofHtml, Html.allStartTags, Html.startTags, Inline.startTags,
      hcontent, List.append_nil]
    rfl
  rw [without, htags, List.all_cons, boxTag_clickless h hattrs]
  rfl

theorem block_clickless {tag : String} {extra : Declarations} {attrs : List Attr}
    {children : List Html} (h : n.type ≠ .button)
    (hchildren : without Token.isMarked children = true)
    (hattrs : attrs.any (fun a => a.name == "onclick") = false) :
    without Token.isClickable [.block tag (boxAttrs n placement extra attrs) children] = true :=
  without_block (boxTag_clickless h hattrs)
    (without_mono (fun _ => Token.isMarked_of_isClickable) hchildren)

/-- Only buttons, headers and carousels of cards have something to click. -/
theorem Node.own_clickless (hbutton : n.type ≠ .button) (hheader : n.type ≠ .header)
    (hcards : n.type ≠ .cardsCarousel) :
    without Token.isClickable (n.own ctx placement).markup = true := by
  rw [Node.own, Element.render]
  cases htype : n.type with
  | button => exact absurd htype hbutton
  | header => exact absurd htype hheader
  | cardsCarousel => exact absurd htype hcards
  | text | heading | icon | rectangle | circle | triangle | divider | spacer =>
    exact leafFragment_clickless hbutton rfl rfl
  | image =>
    refine List.all_eq_true.2 (List.forall_mem_singleton.2 ?_)
    change (!(boxTag "img" n placement [] _).isClickable) = true
    rw [boxTag_clickless hbutton (by rfl)]
    rfl
  | video =>
    dsimp only
    unfold videoFragment
    split <;> exact leafFragment_clickless hbutton rfl rfl
  | container | sectionBox | grid | columns => exact block_clickless hbutton rfl rfl
  | card =>
    refine block_clickless hbutton ?_ rfl
    rw [Fragment.empty, List.append_nil]
    exact cardParts_unmarked ..
  | carousel => exact block_clickless hbutton (carouselParts_unmarked ..) rfl
  | catalogSection =>
    dsimp only
    cases ctx.options.catalog with
    | none => rfl
    | some catalog => exact block_clickless hbutton (catalogParts_unmarked ..) rfl
  | contactForm | newsletterForm | searchForm =>
    refine block_clickless hbutton (formParts_unmarked ..) ?_
    split <;> rfl

/-- Items that are shown with at most one control each have these controls in order. -/
theorem shownAs_items (isLink : Bool) (shown : Json → Bool) (item : Json → Html)
    (h : ∀ j, List.Forall₂ (Control.ShownAs sections)
      (if shown j then [⟨isLink, j.get?⟩] else [])
      ((Html.allStartTags [item j]).filter Token.isClickable)) (items : List Json) :
    List.Forall₂ (Control.ShownAs sections)
      ((items.filter shown).map fun j => ⟨isLink, j.get?⟩)
      ((Html.allStartTags (items.map item)).filter Token.isClickable) := by
  induction items with
  | nil => exact .nil
  | cons j rest ih =>
    have hboth := List.rel_append (h j) ih
    rw [List.map_cons, Html.allStartTags_cons, List.filter_append, List.filter_cons]
    cases hshown : shown j <;> rw [hshown] at hboth <;> exact hboth

theorem headerNav_shownAs (ctx : DocumentContext) (n : Node) :
    List.Forall₂ (Control.ShownAs ctx.sections)
      (((n.propItems "links").filter fun l => l.members?.isSome).map fun l => ⟨true, l.get?⟩)
      ((Html.allStartTags (headerNav ctx n)).filter Token.isClickable) := by
  unfold headerNav
  split
  · next hnone =>
    rw [hnone]
    exact .nil
  · have hlink (link : Json) : List.Forall₂ (Control.ShownAs ctx.sections) [⟨true, link.get?⟩]
        ((Html.allStartTags [headerLink ctx link]).filter Token.isClickable) := by
      obtain ⟨t, htags, hshown⟩ := headerLink_shownAs ctx link
      rw [htags, List.filter_cons_of_pos hshown.isClickable]
      exact .cons hshown .nil
    have hlinks := shownAs_items true (fun _ => true) (headerLink ctx) hlink
      ((n.propItems "links").filter fun l => l.members?.isSome)
    rw [List.filter_true] at hlinks
    rwa [filter_block rfl]

theorem cardItem_shownAs (ctx : DocumentContext) (card : Json) :
    List.Forall₂ (Control.ShownAs ctx.sections)
      (if !(itemText card ["buttonText"]).isEmpty then [⟨false, card.get?⟩] else [])
      ((Html.allStartTags [cardItem ctx card]).filter Token.isClickable) := by
  have hparts (image alt title content : String) :
      without Token.isClickable (cardParts image alt title content) = true :=
    without_mono (fun _ => Token.isMarked_of_isClickable) (cardParts_unmarked ..)
  rw [cardItem, divBlock, filter_block rfl, divBlock, filter_block rfl, Html.allStartTags_append,
    List.filter_append, filter_of_without (hparts ..), List.nil_append]
  cases hlabel : (itemText card ["buttonText"]).isEmpty with
  | true =>
    unfold cardButton spanUnlessEmpty
    dsimp only
    rw [hlabel]
    exact .nil
  | false =>
    obtain ⟨t, htags, hshown⟩ := cardButton_shownAs ctx card hlabel
    rw [htags, List.filter_cons_of_pos hshown.isClickable]
    exact .cons hshown .nil

/-- A node that is rendered alone has its controls and nothing else to click. -/
theorem Node.own_controls (ctx : DocumentContext) (n : Node) (placement : Placement) :
    List.Forall₂ (Control.ShownAs ctx.sections) n.controls
      ((Html.allStartTags (n.own ctx placement).markup).filter Token.isClickable) := by
  -- what stands around the links and the cards cannot be clicked, and neither can other nodes
  by_cases hplain : n.type ≠ .button ∧ n.type ≠ .header ∧ n.type ≠ .cardsCarousel
  · obtain ⟨hbutton, hheader, hcards⟩ := hplain
    rw [filter_of_without (Node.own_clickless hbutton hheader hcards), Node.controls]
    split
    · next h => exact absurd h hbutton
    · next h => exact absurd h hheader
    · next h => exact absurd h hcards
    · exact .nil
  · rw [Node.own, Element.render, Node.controls]
    cases htype : n.type with
    | button =>
      obtain ⟨t, htags, hshown⟩ := buttonFragment_shownAs ctx placement htype
      change List.Forall₂ _ _ ((Html.allStartTags (buttonFragment ctx n placement).markup).filter _)
      rw [htags, List.filter_cons_of_pos hshown.isClickable]
      exact .cons hshown .nil
    | header =>
      have hlogo : without Token.isClickable (headerLogo n) = true :=
        without_mono (fun _ => Token.isMarked_of_isClickable) (headerLogo_unmarked n)
      have htag : (boxTag "header" n placement [] []).isClickable = false :=
        boxTag_clickless (by rw [htype]; decide) rfl
      change List.Forall₂ _ _ ((Html.allStartTags [Html.block "header" (boxAttrs n placement [] [])
        (headerLogo n ++ headerNav ctx n ++ [])]).filter _)
      rw [filter_block htag, List.append_nil, Html.allStartTags_append, List.filter_append,
        filter_of_without hlogo, List.nil_append]
      exact headerNav_shownAs ctx n
    | cardsCarousel =>
      have htag (root : String) :
          (boxTag "div" n placement [] [attr "data-cards-carousel" root]).isClickable = false :=
        boxTag_clickless (by rw [htype]; decide) rfl
      have harrows (c : Bool) : without Token.isClickable (htmlIf c (arrows "cards")) = true :=
        without_htmlIf rfl
      change List.Forall₂ _ _
        ((Html.allStartTags (cardsCarouselFragment ctx n placement).markup).filter _)
      unfold cardsCarouselFragment
      rw [filter_block (htag _), Html.allStartTags_cons,
        List.filter_append, filter_of_without (harrows _), List.append_nil, divBlock,
        filter_block rfl, divBlock, filter_block rfl]
      exact shownAs_items false _ (cardItem ctx) (cardItem_shownAs ctx) _
    | _ => simp [htype] at hplain

end Shown

section Document

variable {sections : Sections} {options : ExportOptions} {html : String}

theorem ordered_of_get? {key : String} {s : Section} (h : sections.get? key = some s) :
    s ∈ sections.ordered :=
  mem_ordered.2 (List.mem_map_of_mem (f := Prod.snd) (SortedMap.get?_eq_some_iff.1 h))

/-- What can be clicked in a document are the controls of its rendered nodes. -/
theorem document_controls {home : Option String} {body : Fragment}
    (h : sectionFragments ⟨sections, options⟩ home sections.ordered = .ok body) :
    List.Forall₂ (Control.ShownAs sections) (sections.rendered.flatMap Node.controls)
      ((documentTokens sections options body).filter Token.isClickable) := by
  rw [documentTokens_placed h fun _ => Token.isMarked_of_isClickable, ← Sections.placed_rendered,
    List.flatMap_map]
  refine List.rel_flatMap (R := Eq) (List.forall₂_refl _) ?_
  rintro x _ rfl
  exact Node.own_controls ⟨sections, options⟩ x.1 x.2

theorem exists_control {cs : List Control} {ts : List Token}
    (h : List.Forall₂ (Control.ShownAs sections) cs ts) :
    ∀ t ∈ ts, ∃ c : Control, c.ShownAs sections t := by
  induction h with
  | nil => exact List.forall_mem_nil _
  | cons hfirst _ ih => exact List.forall_mem_cons.2 ⟨⟨_, hfirst⟩, ih⟩

/-- What a control calls for when it is clicked: a section that is there, or a window. -/
theorem Control.ShownAs.calls {c : Control} {t : Token} {code : String} (h : c.ShownAs sections t)
    (hcode : code ∈ t.values "onclick") :
    (∃ argument, ∃ s ∈ sections.ordered, t.OpensSection argument s) ∨ t.OpensWindow := by
  cases hid : c.sectionId? with
  | none => exact .inr ((h.other hid).resolve_left (List.ne_nil_of_mem hcode))
  | some id =>
    cases hs : sections.get? id with
    | some s =>
      obtain ⟨argument, hopens⟩ := h.live id s hid hs
      exact .inl ⟨argument, s, ordered_of_get? hs, hopens⟩
    | none =>
      -- nothing is called for a section that is gone
      have hattr := Token.hasAttr_of_values hcode
      rw [(h.gone id hid hs).1] at hattr
      cases hattr

/-- Controls of a document lead to what is there. The start tags that can be clicked are those of
the buttons, header links and labelled cards of the rendered nodes, in order. One that names a
section of the map calls for it and shows the way to it, one that names another section calls
nothing, and code that is run for a click calls for one of the sections in the router's
configuration or opens a window. If no tag can begin in the indentation, this is what a reader sees
of the text, with the router's configuration as its script reads it. -/
theorem section_links_live (h : compileDocument sections options = .ok html) :
    ∃ (body : Fragment) (tokens : List Token),
      sectionFragments ⟨sections, options⟩ (sections.home?.map Section.id) sections.ordered =
        .ok body ∧
      html = doctype ++ (options.layout.behind ++
        writePieces options.layout ((documentHtml sections options body).pieces 0)) ∧
      tokens = documentTokens sections options body ∧
      ((∀ c ∈ options.indent.toList, c ≠ '<') →
        ∃ rest, html = doctype ++ rest ∧ readTokens .content rest.toList = some tokens) ∧
      tokens.filterMap Token.raw? = stylesheetRead options.layout ::
        (routerScript sections :: body.scripts).map (ScriptBlock.read options.layout) ∧
      Json.read? (scriptJson (routerScript sections).config) =
        some (routerScript sections).config ∧
      (routerScript sections).config.get? "sections" = some (.arr (sections.ordered.map fun s =>
        .obj [("id", .str s.id), ("slug", .str s.slug)])) ∧
      (∀ t ∈ tokens, ∀ argument, String.ofList (sectionCall argument) ∈ t.values "onclick" →
        ∃ s ∈ sections.ordered, t.OpensSection argument s) ∧
      (∀ t ∈ tokens, ∀ code ∈ t.values "onclick",
        (∃ argument, ∃ s ∈ sections.ordered, t.OpensSection argument s) ∨ t.OpensWindow) ∧
      List.Forall₂ (Control.ShownAs sections) (sections.rendered.flatMap Node.controls)
        (tokens.filter Token.isClickable) := by
  obtain ⟨body, hbody, hhtml⟩ := compileDocument_eq h
  have hsound := sectionFragments_sound hbody
  have hcontrols := document_controls hbody
  have hcalls : ∀ t ∈ documentTokens sections options body, ∀ code ∈ t.values "onclick",
      (∃ argument, ∃ s ∈ sections.ordered, t.OpensSection argument s) ∨ t.OpensWindow := by
    intro t ht code hcode
    -- a start tag with code can be clicked, so it is one of the controls
    have hclickable : t.isClickable = true := by
      rw [Token.isClickable, Token.hasAttr_of_values hcode, Bool.or_true]
    obtain ⟨c, hshown⟩ := exists_control hcontrols t (List.mem_filter.2 ⟨ht, hclickable⟩)
    exact hshown.calls hcode
  refine ⟨body, _, hbody, hhtml, rfl,
    fun hindent => ⟨_, hhtml, documentTokens_read hsound hindent⟩, documentTokens_raw hsound,
    read?_router sections, (routerScript_config sections).1, ?_, hcalls, hcontrols⟩
  intro t ht argument hcode
  rcases hcalls t ht _ hcode with ⟨other, s, hs, hopens⟩ | ⟨other, url, hwindow, -⟩
  · rw [hopens.code, List.mem_singleton, String.ofList_inj, sectionCall_inj] at hcode
    exact ⟨s, hs, hcode ▸ hopens⟩
  · rw [hwindow, List.mem_singleton, String.ofList_inj] at hcode
    exact absurd hcode.symm (windowCall_ne_sectionCall _ _)

/-- A button and a card that open a section of the document, and a link to one that is not there. -/
def linkedSections : Sections :=
  let node (id : String) (type : ElementType) (props : List (String × Json)) : Element :=
    .mk ⟨id, type, SortedMap.ofList props, .empty, .origin, .auto⟩ []
  SortedMap.ofList [("home", { Section.home "home" "Home" with
    elements := [
      node "go" .button [("sectionId", .str "home")],
      node "top" .header [("links", .arr [.obj [("sectionId", .str "gone")]])],
      node "cards" .cardsCarousel
        [("cards", .arr [.obj [("buttonText", .str "Go"), ("sectionId", .str "home")]])]] })]

theorem section_links_live_linked :
    ∃ (html : String) (tokens : List Token) (button link card : Token),
      compileDocument linkedSections {} = .ok html ∧
      tokens.filter Token.isClickable = [button, link, card] ∧
      (∃ argument, ∃ s : Section, button.OpensSection argument s ∧ s.id = "home") ∧
      button.value? "data-href" = some "#home" ∧
      link.hasAttr "onclick" = false ∧ link.value? "href" = some "#" ∧
      (∃ argument, ∃ s : Section, card.OpensSection argument s ∧ s.id = "home") := by
  obtain ⟨html, h⟩ : ∃ html, compileDocument linkedSections {} = .ok html :=
    exists_document (by decide +kernel)
  obtain ⟨body, tokens, -, -, -, -, -, -, -, -, -, hcontrols⟩ := section_links_live h
  have hnames : (linkedSections.rendered.flatMap Node.controls).map
      (fun c => (c.isLink, c.sectionId?)) =
        [(false, some "home"), (true, some "gone"), (false, some "home")] := by decide +kernel
  obtain ⟨home, hhome, hid, hslug⟩ :
      ∃ s, linkedSections.get? "home" = some s ∧ s.id = "home" ∧ s.slug = "home" :=
    ⟨_, rfl, rfl, rfl⟩
  have hgone : linkedSections.get? "gone" = none := rfl
  generalize linkedSections.rendered.flatMap Node.controls = controls at *
  generalize htokens : tokens.filter Token.isClickable = clickable at hcontrols
  obtain ⟨first, _, rfl, hfirst, hnames⟩ := List.map_eq_cons_iff.1 hnames
  obtain ⟨second, _, rfl, hsecond, hnames⟩ := List.map_eq_cons_iff.1 hnames
  obtain ⟨third, _, rfl, hthird, hnames⟩ := List.map_eq_cons_iff.1 hnames
  obtain rfl := List.map_eq_nil_iff.1 hnames
  obtain ⟨-, hfirst⟩ := Prod.mk.inj hfirst
  obtain ⟨hisLink, hsecond⟩ := Prod.mk.inj hsecond
  obtain ⟨-, hthird⟩ := Prod.mk.inj hthird
  match clickable, hcontrols with
  | [button, link, card], .cons hbutton (.cons hlink (.cons hcard .nil)) =>
    obtain ⟨argument, hopens⟩ := hbutton.live _ _ hfirst hhome
    obtain ⟨hcode, -, hhref⟩ := hlink.gone _ hsecond hgone
    obtain ⟨other, hcardOpens⟩ := hcard.live _ _ hthird hhome
    refine ⟨html, tokens, button, link, card, h, htokens, ⟨argument, home, hopens, hid⟩, ?_, hcode,
      hhref hisLink, ⟨other, home, hcardOpens, hid⟩⟩
    rw [hopens.way, hslug]
    rfl

end Document

end PageBuilder
