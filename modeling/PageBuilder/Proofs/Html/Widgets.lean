import PageBuilder.Proofs.Html.Placed

/-!
Widgets: the nodes with a script. A widget is rendered to one box with a name of its own and to one
script whose configuration starts with this name and holds nothing but texts, flags and counts.
-/

namespace PageBuilder

/-- What the names of the widgets of a type start with. -/
def ElementType.rootKind : ElementType → String
  | .carousel => "carousel"
  | .cardsCarousel => "cards"
  | .catalogSection => "catalog"
  | t => formKind t

/-- The name of a widget, which its box and its script share. -/
def Node.root (n : Node) : String := instanceId n.type.rootKind n.id

/-- A value without parts. A number is a natural one. -/
def Json.IsSetting : Json → Prop
  | .num n => ∃ k : Nat, n = .int k
  | .arr _ | .obj _ => False
  | _ => True

@[simp] theorem isSetting_str (s : String) : (Json.str s).IsSetting := trivial

@[simp] theorem isSetting_bool (b : Bool) : (Json.bool b).IsSetting := trivial

@[simp] theorem isSetting_nat (n : Nat) : (Json.nat n).IsSetting := ⟨n, rfl⟩

@[simp] theorem isSetting_option (s : Option String) : (Json.option Json.str s).IsSetting := by
  cases s <;> trivial

/-- The start of a tag that scripts look for. -/
def Token.isRoot (t : Token) : Bool := Token.rootAttrs.any t.hasAttr

theorem Token.isMarked_of_isRoot {t : Token} (h : t.isRoot = true) : t.isMarked = true := by
  rw [Token.isRoot] at h
  simp [Token.isMarked, h]

/-- A widget as it is shown: its box carries its name in the attribute of its behaviour and in no
other one that scripts look for, and its script is configured with the name. -/
structure Widget where
  node : Node
  box : Token
  behavior : Behavior
  fields : List (String × Json)
  type : node.type.behavior? = some behavior
  isBox : IsBoxOf node box
  named : ∀ c : Behavior, box.attr? c.rootAttr = if c = behavior then some node.root else none
  keys : DistinctKeys (("root", Json.str node.root) :: fields)
  settings : ∀ e ∈ fields, e.2.IsSetting

def Widget.script (w : Widget) : ScriptBlock :=
  .ofFields w.behavior (("root", .str w.node.root) :: w.fields)

theorem Widget.script_root (w : Widget) : w.script.config.get? "root" = some (.str w.node.root) :=
  ScriptBlock.ofFields_root _ _ _ w.keys

/-- A fragment shows a widget alone. -/
def Fragment.IsWidget (f : Fragment) (n : Node) : Prop :=
  ∃ w : Widget, w.node = n ∧ (Html.allStartTags f.markup).filter Token.isRoot = [w.box] ∧
    f.scripts = [w.script]

section Rendered

variable {ctx : DocumentContext} {n : Node} {placement : Placement}

theorem cardItem_rootless (ctx : DocumentContext) (card : Json) :
    without Token.isRoot [cardItem ctx card] = true := by
  refine without_block rfl (without_block rfl ?_)
  rw [without_append, without_mono (fun _ => Token.isMarked_of_isRoot) (cardParts_unmarked ..),
    Bool.true_and, cardButton]
  refine without_htmlIf ?_
  split
  · unfold sectionLinkAttrs
    split <;> rfl
  · rfl
  · rfl

theorem headerNav_rootless (ctx : DocumentContext) (n : Node) :
    without Token.isRoot (headerNav ctx n) = true := by
  unfold headerNav
  split
  · rfl
  · refine without_block rfl (without_of_forall fun x hx => ?_)
    obtain ⟨link, -, rfl⟩ := List.mem_map.1 hx
    unfold headerLink sectionLinkAttrs
    dsimp only
    split
    · next id _ => cases ctx.sections.get? id <;> rfl
    · rfl
    · rfl

theorem Node.own_plain (ctx : DocumentContext) (placement : Placement)
    (h : n.type.isInteractive = false) :
    without Token.isRoot (n.own ctx placement).markup = true ∧
      (n.own ctx placement).scripts = [] := by
  rw [Node.own, Element.render]
  cases htype : n.type with
  | carousel | cardsCarousel | catalogSection | contactForm | newsletterForm | searchForm =>
    rw [htype] at h
    cases h
  | button =>
    dsimp only
    unfold buttonFragment
    split
    · unfold sectionLinkAttrs
      split <;> exact ⟨rfl, rfl⟩
    · exact ⟨rfl, rfl⟩
    · exact ⟨rfl, rfl⟩
  | video =>
    dsimp only
    unfold videoFragment
    split <;> exact ⟨rfl, rfl⟩
  | card =>
    refine ⟨without_block rfl ?_, rfl⟩
    rw [Fragment.empty, List.append_nil]
    exact without_mono (fun _ => Token.isMarked_of_isRoot) (cardParts_unmarked ..)
  | header =>
    refine ⟨without_block rfl ?_, rfl⟩
    rw [Fragment.empty, List.append_nil, without_append, headerNav_rootless,
      without_mono (fun _ => Token.isMarked_of_isRoot) (headerLogo_unmarked n)]
    rfl
  | _ => exact ⟨rfl, rfl⟩

theorem rootKind_plain (t : ElementType) : ∀ c ∈ t.rootKind.toList, htmlChar c = [c] := by
  cases t <;> decide

/-- The box around the parts of a widget and the script that looks for it. -/
theorem isWidget_block {b : Behavior} {tag name : String} {more : List Attr} {children : List Html}
    {fields : List (String × Json)} (htype : n.type.behavior? = some b)
    (hbox : ∀ c : Behavior,
      (boxTag tag n placement [] (attr name n.root :: more)).attr? c.rootAttr =
        if c = b then some (escapeHtml n.root) else none)
    (hroot : (boxTag tag n placement [] (attr name n.root :: more)).isRoot = true)
    (hchildren : without Token.isRoot children = true)
    (hfields : DistinctKeys (("root", Json.str n.root) :: fields))
    (hsettings : ∀ e ∈ fields, e.2.IsSetting) :
    Fragment.IsWidget ⟨[.block tag (boxAttrs n placement [] (attr name n.root :: more)) children],
      [.ofFields b (("root", .str n.root) :: fields)]⟩ n := by
  have hnamed (c : Behavior) :
      (boxTag tag n placement [] (attr name n.root :: more)).attr? c.rootAttr =
        if c = b then some n.root else none := by
    rw [hbox, Node.root, escapeHtml_instanceId (rootKind_plain n.type)]
  refine ⟨⟨n, _, b, fields, htype, boxTag_isBoxOf, hnamed, hfields, hsettings⟩, rfl, ?_, rfl⟩
  rw [Html.allStartTags, Html.startTags, Html.allStartTags, List.append_nil]
  change (boxTag tag n placement [] (attr name n.root :: more) :: _).filter Token.isRoot = _
  rw [List.filter_cons_of_pos hroot, filter_of_without hchildren]

theorem branchId_isSetting (n : Node) : (branchId n).IsSetting := by
  unfold branchId
  split
  · split <;> trivial
  · trivial
  · trivial

theorem isWidget_form (htype : n.type.behavior? = some .form)
    (hroot : instanceId (formKind n.type) n.id = n.root) :
    (formFragment n placement).IsWidget n := by
  unfold formFragment
  dsimp only
  rw [hroot]
  generalize (formKind n.type == "search") = search
  refine isWidget_block htype (fun c => ?_) ?_ ?_ ?_ ?_
  · cases search <;> cases c <;> rfl
  · cases search <;> rfl
  · exact without_mono (fun _ => Token.isMarked_of_isRoot) (formParts_unmarked ..)
  · rw [DistinctKeys]
    simp
  · simp

/-- A widget that documents can show is rendered to its box and its script. -/
theorem Node.own_widget (placement : Placement) (h : n.type.isInteractive = true)
    (hcatalog : n.type = .catalogSection → ctx.options.catalog.isSome = true) :
    (n.own ctx placement).IsWidget n := by
  rw [Node.own, Element.render]
  cases htype : n.type with
  | carousel =>
    have hroot : instanceId "carousel" n.id = n.root := by rw [Node.root, htype]; rfl
    dsimp only
    unfold carouselFragment
    rw [hroot]
    refine isWidget_block (by rw [htype]; rfl) (fun c => by cases c <;> rfl) rfl ?_ ?_ ?_
    · exact without_mono (fun _ => Token.isMarked_of_isRoot) (carouselParts_unmarked ..)
    · rw [DistinctKeys]
      simp
    · simp
  | cardsCarousel =>
    have hroot : instanceId "cards" n.id = n.root := by rw [Node.root, htype]; rfl
    dsimp only
    unfold cardsCarouselFragment
    rw [hroot]
    refine isWidget_block (by rw [htype]; rfl) (fun c => by cases c <;> rfl) rfl ?_ ?_ ?_
    · rw [without_cons, without_htmlIf rfl, Bool.and_true]
      refine without_block rfl (without_block rfl (without_of_forall fun x hx => ?_))
      obtain ⟨card, -, rfl⟩ := List.mem_map.1 hx
      exact cardItem_rootless ctx card
    · rw [DistinctKeys]
      simp
    · simp
  | catalogSection =>
    obtain ⟨catalog, hsome⟩ := Option.isSome_iff_exists.1 (hcatalog htype)
    have hroot : instanceId "catalog" n.id = n.root := by rw [Node.root, htype]; rfl
    rw [hsome]
    dsimp only
    unfold catalogFragment
    rw [hroot]
    refine isWidget_block (by rw [htype]; rfl) (fun c => by cases c <;> rfl) rfl ?_ ?_ ?_
    · exact without_mono (fun _ => Token.isMarked_of_isRoot) (catalogParts_unmarked ..)
    · rw [DistinctKeys]
      simp
    · simp [branchId_isSetting]
  | contactForm | newsletterForm | searchForm =>
    exact isWidget_form (by rw [htype]; rfl) (by rw [Node.root, htype]; rfl)
  | _ =>
    rw [htype] at h
    cases h

end Rendered

section Document

variable {sections : Sections} {options : ExportOptions}

/-- Of some placed nodes the widgets have a box with a name each and a script each, and the other
nodes have neither. -/
theorem placed_widgets (ctx : DocumentContext) (nodes : List (Node × Placement))
    (hcatalog : ∀ x ∈ nodes, x.1.type = .catalogSection → ctx.options.catalog.isSome = true) :
    ∃ ws : List Widget,
      ws.map Widget.node = (nodes.map Prod.fst).filter (fun n => n.type.isInteractive) ∧
      (nodes.flatMap fun x => (Html.allStartTags (x.1.own ctx x.2).markup).filter Token.isRoot) =
        ws.map Widget.box ∧
      (nodes.flatMap fun x => (x.1.own ctx x.2).scripts) = ws.map Widget.script := by
  induction nodes with
  | nil => exact ⟨[], rfl, rfl, rfl⟩
  | cons x rest ih =>
    obtain ⟨hfirst, hrest⟩ := List.forall_mem_cons.1 hcatalog
    obtain ⟨ws, hnodes, hboxes, hscripts⟩ := ih hrest
    rw [List.flatMap_cons, List.flatMap_cons, List.map_cons, hboxes, hscripts]
    by_cases hwidget : x.1.type.isInteractive = true
    · obtain ⟨w, hnode, hbox, hscript⟩ := Node.own_widget x.2 hwidget hfirst
      refine ⟨w :: ws, ?_, ?_, ?_⟩
      · rw [List.filter_cons, if_pos hwidget, List.map_cons, hnode, hnodes]
      · rw [hbox, List.map_cons, List.singleton_append]
      · rw [hscript, List.map_cons, List.singleton_append]
    · obtain ⟨htags, hnone⟩ := Node.own_plain ctx x.2 (Bool.eq_false_iff.2 hwidget)
      refine ⟨ws, ?_, ?_, ?_⟩
      · rw [List.filter_cons, if_neg hwidget, hnodes]
      · rw [filter_of_without htags, List.nil_append]
      · rw [hnone, List.nil_append]

/-- The places of a document that scripts look for are the boxes of the rendered widgets, and the
scripts of its sections are theirs. -/
theorem document_widgets {home : Option String} {body : Fragment}
    (h : sectionFragments ⟨sections, options⟩ home sections.ordered = .ok body) :
    ∃ ws : List Widget,
      ws.map Widget.node = sections.rendered.filter (fun n => n.type.isInteractive) ∧
      (documentTokens sections options body).filter Token.isRoot = ws.map Widget.box ∧
      body.scripts = ws.map Widget.script := by
  -- the sections have been rendered, so there are options for every catalog
  have hcatalog : ∀ x ∈ placedNodes sections.ordered, x.1.type = .catalogSection →
      options.catalog.isSome = true := by
    intro x hx htype
    have hnode : x.1 ∈ sections.rendered := by
      rw [← Sections.placed_rendered]
      exact List.mem_map_of_mem hx
    have hstops := sectionFragments_stopsAt ⟨sections, options⟩ home sections.ordered
    rcases firstRefused?_eq_none.1 (hstops.ok_iff.1 ⟨body, h⟩) with hsome | hnone
    · exact hsome
    · exact absurd htype (hnone x.1 hnode)
  obtain ⟨ws, hnodes, hboxes, hscripts⟩ :=
    placed_widgets ⟨sections, options⟩ (placedNodes sections.ordered) hcatalog
  rw [Sections.placed_rendered] at hnodes
  refine ⟨ws, hnodes, ?_, ?_⟩
  · rw [documentTokens_placed h fun _ => Token.isMarked_of_isRoot, hboxes]
  · rw [(sectionFragments_madeOf h).2, hscripts]

end Document

end PageBuilder
