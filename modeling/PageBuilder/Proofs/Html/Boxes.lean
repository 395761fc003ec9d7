import PageBuilder.Proofs.Html.Document
import PageBuilder.Proofs.Html.StartTags
import PageBuilder.Proofs.SortedMap

/-!
Documents show every rendered node once. Rendering an element writes one box for each node that is
reached through containers, in preorder, and one script for each of those that are widgets; the
script names the box that it drives.
-/

namespace PageBuilder

mutual

/-- The nodes of an element that documents show: children count inside containers only. -/
def Element.rendered : Element → List Node
  | .mk n children => n :: if n.type.isContainer then Forest.rendered children else []

/-- The nodes of a forest that documents show, from the top and from left to right. -/
def Forest.rendered : List Element → List Node
  | [] => []
  | e :: rest => e.rendered ++ Forest.rendered rest

end

/-- The behaviour of the widgets of a type. -/
def ElementType.behavior? : ElementType → Option Behavior
  | .carousel => some .carousel
  | .cardsCarousel => some .cardsCarousel
  | .catalogSection => some .catalog
  | .contactForm | .newsletterForm | .searchForm => some .form
  | _ => none

theorem ElementType.behavior?_isSome (t : ElementType) : t.behavior?.isSome = t.isInteractive := by
  cases t <;> rfl

/-- The attribute that marks the box of a widget for its script. -/
def Behavior.rootAttr (b : Behavior) : String := "data-" ++ b.name

/-- A box is that of a node. -/
def IsBoxOf (n : Node) (box : Token) : Prop :=
  box.isBox = true ∧ box.attr? "id" = some ("pc-" ++ escapeHtml n.id)

/-- A script has the behaviour for the type of a node, and its configuration names the box that the
node's data attribute names. -/
def Drives (n : Node) (box : Token) (b : ScriptBlock) : Prop :=
  n.type.behavior? = some b.behavior ∧
    ∃ root, b.config.get? "root" = some (.str root) ∧ box.attr? b.behavior.rootAttr = some root

/-- A fragment has one box for each of some nodes, in their order, and one script for each of those
that are widgets. -/
def Fragment.Shows (f : Fragment) (nodes : List Node) : Prop :=
  ∃ boxes : List (Node × Token),
    boxes.map Prod.fst = nodes ∧
    (Html.allStartTags f.markup).filter Token.isBox = boxes.map Prod.snd ∧
    (∀ b ∈ boxes, IsBoxOf b.1 b.2) ∧
    List.Forall₂ (fun b script => Drives b.1 b.2 script)
      (boxes.filter fun b => b.1.type.isInteractive) f.scripts

section Names

theorem toDigits_hex (n : Nat) : ∀ c ∈ Nat.toDigits 16 n, ∃ d < 16, c = Nat.digitChar d := by
  induction n using Nat.strongRecOn with
  | ind n ih =>
    intro c hc
    rcases Nat.lt_or_ge n 16 with hsmall | hlarge
    · rw [Nat.toDigits_of_lt_base hsmall] at hc
      exact ⟨n, hsmall, List.mem_singleton.1 hc⟩
    · rw [Nat.toDigits_of_base_le (by decide) hlarge] at hc
      rcases List.mem_append.1 hc with hc | hc
      · exact ih (n / 16) (by omega) c hc
      · exact ⟨n % 16, Nat.mod_lt _ (by decide), List.mem_singleton.1 hc⟩

theorem checksum_hex (s : String) : ∀ c ∈ (checksum s).toList, ∃ d < 16, c = Nat.digitChar d := by
  intro c hc
  unfold checksum at hc
  rw [String.toList_ofList] at hc
  rcases List.mem_append.1 hc with hc | hc
  · exact ⟨0, by decide, (List.mem_replicate.1 hc).2⟩
  · exact toDigits_hex _ c hc

/-- The name of a widget is written as it is. -/
theorem escapeHtml_instanceId {kind : String} (hkind : ∀ c ∈ kind.toList, htmlChar c = [c])
    (id : String) : escapeHtml (instanceId kind id) = instanceId kind id := by
  have hdigits : ∀ d < 16, htmlChar (Nat.digitChar d) = [Nat.digitChar d] := by decide
  apply escapeHtml_eq_self
  intro c hc
  rw [instanceId, String.toList_append, String.toList_append] at hc
  rcases List.mem_append.1 hc with hc | hc
  · rcases List.mem_append.1 hc with hc | hc
    · exact hkind c hc
    · rw [List.mem_singleton.1 hc]
      decide
  · obtain ⟨d, hd, rfl⟩ := checksum_hex id c hc
    exact hdigits d hd

theorem Json.get?_ofMap (m : SortedMap Json) (key : String) :
    (Json.ofMap m).get? key = m.get? key := by
  apply Option.ext
  intro value
  rw [SortedMap.get?_eq_some_iff, Json.ofMap, Json.get?]
  have hmem {e : String × Json} (he : e ∈ m.entries.filter fun e => e.1 == key) :
      e ∈ m.entries ∧ e.1 = key := by
    obtain ⟨he, hkey⟩ := List.mem_filter.1 he
    exact ⟨he, eq_of_beq hkey⟩
  constructor
  · intro h
    obtain ⟨e, hlast, rfl⟩ := Option.map_eq_some_iff.1 h
    obtain ⟨he, rfl⟩ := hmem (List.mem_of_getLast? hlast)
    exact he
  · intro h
    have hfound : (key, value) ∈ m.entries.filter fun e => e.1 == key :=
      List.mem_filter.2 ⟨h, beq_iff_eq.2 rfl⟩
    cases hlast : (m.entries.filter fun e => e.1 == key).getLast? with
    | none =>
      rw [List.getLast?_eq_none_iff.1 hlast] at hfound
      cases hfound
    | some e =>
      obtain ⟨he, rfl⟩ := hmem (List.mem_of_getLast? hlast)
      rw [Option.map_some, SortedMap.eq_of_get? (SortedMap.get?_eq_some_iff.2 he) h]

theorem ScriptBlock.ofFields_root (behavior : Behavior) (root : Json)
    (fields : List (String × Json)) (h : DistinctKeys (("root", root) :: fields)) :
    (ofFields behavior (("root", root) :: fields)).config.get? "root" = some root := by
  rw [ofFields, Json.get?_ofMap]
  exact (SortedMap.get?_ofList h).2 (List.mem_cons_self ..)

end Names

section Fragments

variable {n : Node} {placement : Placement} {tag : String} {extra : Declarations}
  {attrs : List Attr}

/-- The start tag of a node's box. -/
def boxTag (tag : String) (n : Node) (placement : Placement) (extra : Declarations)
    (attrs : List Attr) : Token :=
  .startTag tag ((boxAttrs n placement extra attrs).map Attr.written)

theorem boxClass_isBoxClass (t : ElementType) :
    Token.isBoxClass (escapeHtml ("pc-el pc-" ++ typeClass t ++ formClass t)) = true := by
  cases t <;> decide

theorem boxTag_isBoxOf : IsBoxOf n (boxTag tag n placement extra attrs) := by
  have hclass : (boxTag tag n placement extra attrs).attr? "class" =
      some (escapeHtml ("pc-el pc-" ++ typeClass n.type ++ formClass n.type)) := rfl
  have hid : (boxTag tag n placement extra attrs).attr? "id" = some (escapeHtml ("pc-" ++ n.id)) :=
    rfl
  have hprefix : escapeHtml "pc-" = "pc-" := by decide
  refine ⟨?_, ?_⟩
  · rw [Token.isBox, hclass, Option.any_some, boxClass_isBoxClass]
  · rw [hid, escapeHtml_append, hprefix]

namespace Fragment.Shows

variable {f g : Fragment} {nodes others : List Node}

theorem empty : Fragment.empty.Shows [] :=
  ⟨[], rfl, rfl, List.forall_mem_nil _, .nil⟩

theorem append (hf : f.Shows nodes) (hg : g.Shows others) :
    (f.append g).Shows (nodes ++ others) := by
  obtain ⟨boxes, rfl, hboxes, hnodes, hscripts⟩ := hf
  obtain ⟨more, rfl, hmore, hothers, hrest⟩ := hg
  refine ⟨boxes ++ more, List.map_append, ?_, List.forall_mem_append.2 ⟨hnodes, hothers⟩, ?_⟩
  · rw [Fragment.append, Html.allStartTags_append, List.filter_append, hboxes, hmore,
      List.map_append]
  · rw [List.filter_append]
    exact List.rel_append hscripts hrest

/-- The box of a node that is no widget, around a fragment. -/
theorem box (h : f.Shows nodes) (hplain : n.type.isInteractive = false) {x : Html}
    {inner : List Token} (hx : x.startTags = boxTag tag n placement extra attrs :: inner)
    (hinner : inner.filter Token.isBox = (Html.allStartTags f.markup).filter Token.isBox) :
    Fragment.Shows ⟨[x], f.scripts⟩ (n :: nodes) := by
  obtain ⟨boxes, rfl, hboxes, hnodes, hscripts⟩ := h
  have hbox : IsBoxOf n (boxTag tag n placement extra attrs) := boxTag_isBoxOf
  refine ⟨(n, boxTag tag n placement extra attrs) :: boxes, rfl, ?_,
    List.forall_mem_cons.2 ⟨hbox, hnodes⟩, ?_⟩
  · rw [Html.allStartTags, hx, Html.allStartTags, List.append_nil, List.filter_cons_of_pos hbox.1,
      hinner, hboxes, List.map_cons]
  · rw [List.filter_cons_of_neg (by simp [hplain])]
    exact hscripts

/-- The box of a container, with parts of its own in front of its children. -/
theorem container (h : f.Shows nodes) (hplain : n.type.isInteractive = false) {before : List Html}
    (hbefore : without Token.isBox before = true) :
    (f.inBlock tag (boxAttrs n placement extra attrs) before).Shows (n :: nodes) := by
  refine h.box hplain (Html.startTags.eq_2 ..) ?_
  rw [Html.allStartTags_append, List.filter_append, filter_of_without hbefore,
    List.nil_append]

theorem leaf (hplain : n.type.isInteractive = false) {content : List Inline}
    (hcontent : Inline.allStartTags content = []) :
    (leafFragment n placement tag attrs content).Shows [n] := by
  have htags : (Html.line (.span tag (boxAttrs n placement [] attrs) content)).startTags =
      [boxTag tag n placement [] attrs] := by
    rw [Html.startTags, Inline.startTags, hcontent]
    rfl
  exact empty.box hplain htags rfl

/-- A block that is no box. -/
theorem inBlock (h : f.Shows nodes)
    (hplain : (Token.startTag tag (attrs.map Attr.written)).isBox = false) :
    (f.inBlock tag attrs []).Shows nodes := by
  obtain ⟨boxes, hfst, hboxes, hnodes, hscripts⟩ := h
  exact ⟨boxes, hfst, (filter_block hplain).trans hboxes, hnodes, hscripts⟩

/-- The box of a widget with its script. -/
theorem widget {children : List Html} {b : ScriptBlock}
    (hchildren : without Token.isBox children = true)
    (hdrives : Drives n (boxTag tag n placement extra attrs) b) :
    Fragment.Shows ⟨[.block tag (boxAttrs n placement extra attrs) children], [b]⟩ [n] := by
  have hbox : IsBoxOf n (boxTag tag n placement extra attrs) := boxTag_isBoxOf
  have hwidget : n.type.isInteractive = true := by
    rw [← ElementType.behavior?_isSome, hdrives.1]
    rfl
  refine ⟨[(n, boxTag tag n placement extra attrs)], rfl, ?_, List.forall_mem_singleton.2 hbox, ?_⟩
  · rw [Html.allStartTags, Html.startTags, Html.allStartTags, List.append_nil]
    change (boxTag tag n placement extra attrs :: _).filter Token.isBox = _
    rw [List.filter_cons_of_pos hbox.1, filter_of_without hchildren]
    rfl
  · rw [List.filter_cons_of_pos (by simpa using hwidget)]
    exact .cons hdrives .nil

end Fragment.Shows

section Widgets

variable (ctx : DocumentContext) (n : Node) (placement : Placement)

theorem boxTag_rootAttr (tag : String) (b : Behavior) (root : String) (more : List Attr) :
    (boxTag tag n placement [] (attr b.rootAttr root :: more)).attr? b.rootAttr =
      some (escapeHtml root) := by
  cases b <;> rfl

/-- The script of a widget drives the box that carries its name. -/
theorem drives_ofFields {b : Behavior} {name kind tag : String} {more : List Attr}
    {fields : List (String × Json)} (htype : n.type.behavior? = some b) (hname : b.rootAttr = name)
    (hkind : ∀ c ∈ kind.toList, htmlChar c = [c]) (hfields : "root" ∉ fields.map Prod.fst)
    (hdistinct : (fields.map Prod.fst).Nodup) :
    Drives n (boxTag tag n placement [] (attr name (instanceId kind n.id) :: more))
      (.ofFields b (("root", .str (instanceId kind n.id)) :: fields)) := by
  have hkeys : DistinctKeys (("root", .str (instanceId kind n.id)) :: fields) :=
    List.nodup_cons.2 ⟨hfields, hdistinct⟩
  have hattr := boxTag_rootAttr n placement tag b (instanceId kind n.id) more
  rw [escapeHtml_instanceId hkind, hname] at hattr
  refine ⟨htype, instanceId kind n.id, ScriptBlock.ofFields_root _ _ _ hkeys, ?_⟩
  rw [show (ScriptBlock.ofFields b _).behavior = b from rfl, hname]
  exact hattr

theorem carouselFragment_shows (h : n.type = .carousel) :
    (carouselFragment n placement).Shows [n] := by
  have htype : n.type.behavior? = some .carousel := by rw [h]; rfl
  refine .widget ?_
    (drives_ofFields n placement htype (by decide) (by decide) (by simp) (by simp))
  exact without_mono (fun _ => Token.isMarked_of_isBox) (carouselParts_unmarked ..)

theorem cardsCarouselFragment_shows (h : n.type = .cardsCarousel) :
    (cardsCarouselFragment ctx n placement).Shows [n] := by
  have htype : n.type.behavior? = some .cardsCarousel := by rw [h]; rfl
  refine .widget ?_
    (drives_ofFields n placement htype (by decide) (by decide) (by simp) (by simp))
  rw [without_cons, without_htmlIf rfl, Bool.and_true]
  refine without_block rfl (without_block rfl (without_of_forall fun x hx => ?_))
  obtain ⟨card, -, rfl⟩ := List.mem_map.1 hx
  exact cardItem_boxless ctx card

theorem catalogFragment_shows (catalog : CatalogOptions) (h : n.type = .catalogSection) :
    (catalogFragment catalog n placement).Shows [n] := by
  have htype : n.type.behavior? = some .catalog := by rw [h]; rfl
  refine .widget ?_
    (drives_ofFields n placement htype (by decide) (by decide) (by simp) (by simp))
  exact without_mono (fun _ => Token.isMarked_of_isBox) (catalogParts_unmarked ..)

theorem formFragment_shows (h : n.type.behavior? = some .form) :
    (formFragment n placement).Shows [n] := by
  have hkind : ∀ c ∈ (formKind n.type).toList, htmlChar c = [c] := by
    unfold formKind
    split <;> decide
  refine .widget ?_ (drives_ofFields n placement h (by decide) hkind (by simp) (by simp))
  exact without_mono (fun _ => Token.isMarked_of_isBox) (formParts_unmarked ..)

theorem imageFragment_shows (h : n.type.isInteractive = false) :
    (imageFragment n placement).Shows [n] :=
  Fragment.Shows.empty.box h (Html.startTags.eq_1 _) rfl

theorem buttonFragment_shows (h : n.type.isInteractive = false) :
    (buttonFragment ctx n placement).Shows [n] := by
  unfold buttonFragment
  split <;> exact .leaf h rfl

end Widgets

mutual

theorem Element.render_shows (e : Element) (ctx : DocumentContext) (placement : Placement)
    {f : Fragment} (h : e.render ctx placement = .ok f) : f.Shows e.rendered := by
  cases e with
  | mk n children =>
    have hleaf {f : Fragment} (htype : n.type.isContainer = false) (hf : f.Shows [n]) :
        f.Shows (Element.mk n children).rendered := by
      rw [Element.rendered, htype]
      exact hf
    have hcontainer {f : Fragment} (htype : n.type.isContainer = true)
        (hf : f.Shows (n :: Forest.rendered children)) :
        f.Shows (Element.mk n children).rendered := by
      rw [Element.rendered, htype]
      exact hf
    rw [Element.render] at h
    split at h
    iterate 2
      · next htype =>
        cases h
        exact hleaf (by rw [htype]; rfl) (.leaf (by rw [htype]; rfl) rfl)
    · next htype =>
      cases h
      exact hleaf (by rw [htype]; rfl) (buttonFragment_shows ctx n placement (by rw [htype]; rfl))
    · next htype =>
      cases h
      exact hleaf (by rw [htype]; rfl) (imageFragment_shows n placement (by rw [htype]; rfl))
    iterate 2
      · next htype =>
        cases h
        exact hleaf (by rw [htype]; rfl) (.leaf (by rw [htype]; rfl) rfl)
    iterate 2
      · next htype =>
        obtain ⟨inner, hinner, hblock⟩ := bind_ok h
        cases hblock
        have hchildren := Forest.render_shows children ctx .absolute hinner
        exact hcontainer (by rw [htype]; rfl) (hchildren.container (by rw [htype]; rfl) rfl)
    iterate 2
      · next htype =>
        obtain ⟨inner, hinner, hblock⟩ := bind_ok h
        cases hblock
        have hchildren := Forest.render_shows children ctx .flow hinner
        exact hcontainer (by rw [htype]; rfl) (hchildren.container (by rw [htype]; rfl) rfl)
    · next htype =>
      obtain ⟨inner, hinner, hblock⟩ := bind_ok h
      cases hblock
      have hchildren := Forest.render_shows children ctx .absolute hinner
      have hparts : without Token.isBox (cardElementParts n) = true :=
        without_mono (fun _ => Token.isMarked_of_isBox) (cardParts_unmarked ..)
      exact hcontainer (by rw [htype]; rfl) (hchildren.container (by rw [htype]; rfl) hparts)
    · next htype =>
      obtain ⟨inner, hinner, hblock⟩ := bind_ok h
      cases hblock
      have hchildren := Forest.render_shows children ctx .absolute hinner
      have hparts : without Token.isBox (headerLogo n ++ headerNav ctx n) = true := by
        rw [without_append, without_mono (fun _ => Token.isMarked_of_isBox) (headerLogo_unmarked n),
          headerNav_boxless]
        rfl
      exact hcontainer (by rw [htype]; rfl) (hchildren.container (by rw [htype]; rfl) hparts)
    iterate 5
      · next htype =>
        cases h
        exact hleaf (by rw [htype]; rfl) (.leaf (by rw [htype]; rfl) rfl)
    · next htype =>
      cases h
      exact hleaf (by rw [htype]; rfl) (carouselFragment_shows n placement htype)
    · next htype =>
      cases h
      exact hleaf (by rw [htype]; rfl) (cardsCarouselFragment_shows ctx n placement htype)
    · next htype =>
      split at h
      · next catalog hcatalog =>
        cases h
        exact hleaf (by rw [htype]; rfl) (catalogFragment_shows n placement catalog htype)
      · cases h
    iterate 3
      · next htype =>
        cases h
        exact hleaf (by rw [htype]; rfl) (formFragment_shows n placement (by rw [htype]; rfl))

theorem Forest.render_shows (forest : List Element) (ctx : DocumentContext) (placement : Placement)
    {f : Fragment} (h : Forest.render ctx placement forest = .ok f) :
    f.Shows (Forest.rendered forest) := by
  cases forest with
  | nil =>
    cases h
    exact .empty
  | cons e rest =>
    rw [Forest.render] at h
    obtain ⟨first, hfirst, hrest⟩ := bind_ok h
    obtain ⟨others, hothers, hboth⟩ := bind_ok hrest
    cases hboth
    exact (Element.render_shows e ctx placement hfirst).append
      (Forest.render_shows rest ctx placement hothers)

end

end Fragments

section Document

variable {sections : Sections} {options : ExportOptions} {html : String}

theorem sectionFragments_shows {ctx : DocumentContext} {home : Option String} {ss : List Section}
    {f : Fragment} (h : sectionFragments ctx home ss = .ok f) :
    f.Shows (ss.flatMap fun s => Forest.rendered s.elements) := by
  induction ss generalizing f with
  | nil =>
    cases h
    exact .empty
  | cons s rest ih =>
    obtain ⟨first, hfirst, hrest⟩ := bind_ok h
    obtain ⟨others, hothers, hboth⟩ := bind_ok hrest
    cases hboth
    obtain ⟨inner, hinner, hblock⟩ := bind_ok hfirst
    cases hblock
    exact ((Forest.render_shows s.elements ctx .absolute hinner).inBlock rfl).append (ih hothers)

/-- All of a document that has a meaning for scripts stands in its sections. -/
theorem documentTokens_marked {p : Token → Bool} (hp : ∀ t, p t = true → t.isMarked = true)
    (body : Fragment) :
    (documentTokens sections options body).filter p =
      (Html.allStartTags body.markup).filter p := by
  have hframe {t : Token} (ht : t.isMarked = false) : p t = false :=
    Bool.eq_false_iff.2 fun h => absurd (hp t h) (Bool.eq_false_iff.1 ht)
  have hstart (tokens : List Token) :
      tokens.filter p = (tokens.filter Token.isStart).filter p := by
    rw [List.filter_filter]
    refine List.filter_congr fun t _ => ?_
    cases ht : p t with
    | false => rfl
    | true => rw [Token.isStart_of_isMarked (hp t ht)]; rfl
  have htree : (documentHtml sections options body).startTags =
      Html.allStartTags [documentHtml sections options body] := by
    rw [Html.allStartTags, Html.allStartTags, List.append_nil]
  rw [hstart, documentTokens, List.filter_append, charTokens_noStart, List.nil_append,
    Html.tokens_start, htree, documentHtml, filter_block (hframe rfl), ← List.singleton_append,
    Html.allStartTags_append, List.filter_append,
    filter_of_without (without_mono hp (headHtml_unmarked _)), filter_block (hframe rfl),
    Html.allStartTags_append, List.filter_append,
    filter_of_without (without_mono hp (scriptsHtml_unmarked _)), List.append_nil, List.nil_append]

theorem documentTokens_boxes (body : Fragment) :
    (documentTokens sections options body).filter Token.isBox =
      (Html.allStartTags body.markup).filter Token.isBox :=
  documentTokens_marked (fun _ => Token.isMarked_of_isBox) body

/-- The boxes of a document are those of the rendered nodes of its sections in order, one for each,
and its scripts are the router's and one for each rendered widget, of the behaviour for its type and
with the name that its box carries. If no tag can begin in the indentation, this is what a reader
sees of the text. -/
theorem boxes_match_rendered (h : compileDocument sections options = .ok html) :
    ∃ (body : Fragment) (tokens : List Token) (boxes : List (Node × Token)),
      sectionFragments ⟨sections, options⟩ (sections.home?.map Section.id) sections.ordered =
        .ok body ∧
      html = doctype ++ (options.layout.behind ++
        writePieces options.layout ((documentHtml sections options body).pieces 0)) ∧
      tokens = documentTokens sections options body ∧
      ((∀ c ∈ options.indent.toList, c ≠ '<') →
        ∃ rest, html = doctype ++ rest ∧ readTokens .content rest.toList = some tokens) ∧
      boxes.map Prod.fst = sections.ordered.flatMap (fun s => Forest.rendered s.elements) ∧
      tokens.filter Token.isBox = boxes.map Prod.snd ∧
      (∀ b ∈ boxes, b.2.attr? "id" = some ("pc-" ++ escapeHtml b.1.id)) ∧
      tokens.filterMap Token.raw? = stylesheetRead options.layout ::
        (routerScript sections :: body.scripts).map (ScriptBlock.read options.layout) ∧
      List.Forall₂ (fun b script => Drives b.1 b.2 script)
        (boxes.filter fun b => b.1.type.isInteractive) body.scripts := by
  obtain ⟨body, hbody, hhtml⟩ := compileDocument_eq h
  have hsound := sectionFragments_sound hbody
  obtain ⟨boxes, hnodes, hboxes, hids, hscripts⟩ := sectionFragments_shows hbody
  refine ⟨body, _, boxes, hbody, hhtml, rfl, fun hindent => ⟨_, hhtml, ?_⟩, hnodes, ?_, ?_,
    documentTokens_raw hsound, hscripts⟩
  · have hline : Reads options.layout.behind.toList (charTokens options.layout.behind) :=
      Reads.charTokens fun c hc => (options.layout.behind_plain c hc).1
    have htree : Reads
        (writePieces options.layout ((documentHtml sections options body).pieces 0)).toList
        ((documentHtml sections options body).tokens options.layout 0) :=
      (documentHtml_sound hsound).reads hindent 0
    rw [String.toList_append]
    exact (hline.append htree).readTokens_eq
  · rw [documentTokens_boxes, hboxes]
  · exact fun b hb => (hids b hb).2

/-- A carousel in a container, with an element below it that is not shown, and a form. -/
def widgetSections : Sections :=
  let node (id : String) (type : ElementType) : Node := ⟨id, type, .empty, .empty, .origin, .auto⟩
  SortedMap.ofList [("home", { Section.home "home" "Home" with
    elements := [
      .mk (node "box" .container) [.mk (node "slides" .carousel) [.mk (node "lost" .text) []]],
      .mk (node "a&b" .searchForm) []] })]

theorem boxes_match_rendered_widgets :
    ∃ (html : String) (body : Fragment) (rest : String) (tokens : List Token),
      compileDocument widgetSections {} = .ok html ∧
      html = doctype ++ rest ∧ readTokens .content rest.toList = some tokens ∧
      (tokens.filter Token.isBox).map (Token.attr? "id") =
        [some "pc-box", some "pc-slides", some "pc-a&amp;b"] ∧
      tokens.filterMap Token.raw? = stylesheetRead ⟨true, "  "⟩ ::
        (routerScript widgetSections :: body.scripts).map (ScriptBlock.read ⟨true, "  "⟩) ∧
      body.scripts.map (fun b => some b.behavior) = [some .carousel, some .form] := by
  obtain ⟨html, h⟩ : ∃ html, compileDocument widgetSections {} = .ok html :=
    exists_document (by decide +kernel)
  obtain ⟨body, tokens, boxes, -, -, -, hread, hnodes, hboxes, hids, hraw, hdrives⟩ :=
    boxes_match_rendered h
  obtain ⟨rest, hhtml, hrest⟩ := hread (by decide)
  refine ⟨html, body, rest, tokens, h, hhtml, hrest, ?_, hraw, ?_⟩
  · rw [hboxes, List.map_map]
    have hwritten : boxes.map (Token.attr? "id" ∘ Prod.snd) =
        (boxes.map Prod.fst).map fun n => some ("pc-" ++ escapeHtml n.id) := by
      rw [List.map_map]
      exact List.map_congr_left hids
    rw [hwritten, hnodes]
    decide +kernel
  · have hbehaviors : (boxes.filter fun b => b.1.type.isInteractive).map
        (fun b => b.1.type.behavior?) = body.scripts.map fun b => some b.behavior := by
      rw [← List.forall₂_eq_eq_eq, List.forall₂_map_left_iff, List.forall₂_map_right_iff]
      exact hdrives.imp fun _ _ hb => hb.1
    have hwidgets : (boxes.filter fun b => b.1.type.isInteractive).map
        (fun b => b.1.type.behavior?) =
          ((boxes.map Prod.fst).filter fun n => n.type.isInteractive).map fun n =>
            n.type.behavior? := by
      rw [List.filter_map, List.map_map]
      rfl
    rw [← hbehaviors, hwidgets, hnodes]
    decide +kernel

end Document

end PageBuilder
