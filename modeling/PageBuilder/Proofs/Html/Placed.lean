import PageBuilder.Proofs.Html.Boxes
import PageBuilder.Proofs.Html.Refusal

/-!
Rendering node by node. What a rendered tree has in start tags and in scripts is what its nodes have
when each is rendered alone, in preorder; a document adds nothing with a meaning for scripts to it.
-/

namespace PageBuilder

/-- How the children of a container are placed. -/
def ElementType.inside : ElementType → Placement
  | .grid | .columns => .flow
  | _ => .absolute

mutual

/-- The rendered nodes of an element and how each of them is placed. -/
def Element.placed (placement : Placement) : Element → List (Node × Placement)
  | .mk n children =>
    (n, placement) :: if n.type.isContainer then Forest.placed n.type.inside children else []

def Forest.placed (placement : Placement) : List Element → List (Node × Placement)
  | [] => []
  | e :: rest => e.placed placement ++ Forest.placed placement rest

end

/-- What a node is rendered to without its children. -/
def Node.own (ctx : DocumentContext) (n : Node) (placement : Placement) : Fragment :=
  ((Element.mk n []).render ctx placement).toOption.getD .empty

/-- A fragment is made of what some nodes are rendered to alone. -/
structure Fragment.MadeOf (f : Fragment) (ctx : DocumentContext) (nodes : List (Node × Placement)) :
    Prop where
  tags : Html.allStartTags f.markup =
    nodes.flatMap fun x => Html.allStartTags (x.1.own ctx x.2).markup
  scripts : f.scripts = nodes.flatMap fun x => (x.1.own ctx x.2).scripts

section Nodes

mutual

theorem Element.placed_nodes (placement : Placement) (e : Element) :
    (e.placed placement).map Prod.fst = e.rendered := by
  cases e with
  | mk n children =>
    rw [Element.placed, Element.rendered, List.map_cons]
    split
    · rw [Forest.placed_nodes]
    · rfl

theorem Forest.placed_nodes (placement : Placement) (forest : List Element) :
    (Forest.placed placement forest).map Prod.fst = Forest.rendered forest := by
  cases forest with
  | nil => rfl
  | cons e rest =>
    rw [Forest.placed, Forest.rendered, List.map_append, Element.placed_nodes, Forest.placed_nodes]

end

variable {ctx : DocumentContext} {n : Node} {placement : Placement}

/-- Apart from containers, nodes are rendered in the same way whatever stands below them. -/
theorem Element.render_childless (children : List Element) (h : n.type.isContainer = false) :
    (Element.mk n children).render ctx placement = (Element.mk n []).render ctx placement := by
  rw [Element.render, Element.render]
  cases htype : n.type with
  | container | sectionBox | grid | columns | card | header =>
    rw [htype] at h
    cases h
  | _ => rfl

/-- Containers put the same block around their children, whatever these are. -/
theorem Element.render_children (ctx : DocumentContext) (placement : Placement)
    (h : n.type.isContainer = true) :
    ∃ tag extra before, ∀ children, (Element.mk n children).render ctx placement =
      (Forest.render ctx n.type.inside children).map
        (Fragment.inBlock tag (boxAttrs n placement extra []) before) := by
  simp only [Element.render]
  cases htype : n.type with
  | container | sectionBox | grid | columns | card | header => exact ⟨_, _, _, fun _ => rfl⟩
  | _ =>
    rw [htype] at h
    cases h

theorem Fragment.madeOf_empty : Fragment.empty.MadeOf ctx [] := ⟨rfl, rfl⟩

variable {f g : Fragment} {nodes others : List (Node × Placement)}

theorem Fragment.MadeOf.append (hf : f.MadeOf ctx nodes) (hg : g.MadeOf ctx others) :
    (f.append g).MadeOf ctx (nodes ++ others) := by
  refine ⟨?_, ?_⟩
  · rw [Fragment.append, Html.allStartTags_append, hf.tags, hg.tags, List.flatMap_append]
  · rw [Fragment.append, hf.scripts, hg.scripts, List.flatMap_append]

/-- A container is made of its own node and of what its children are made of. -/
theorem Fragment.MadeOf.container {tag : String} {attrs : List Attr} {before : List Html}
    (h : f.MadeOf ctx nodes)
    (hown : n.own ctx placement = Fragment.empty.inBlock tag attrs before) :
    (f.inBlock tag attrs before).MadeOf ctx ((n, placement) :: nodes) := by
  refine ⟨?_, ?_⟩
  · simp only [Fragment.inBlock, List.flatMap_cons, hown, ← h.tags, Html.allStartTags,
      Html.startTags, Html.allStartTags_append, Fragment.empty, List.append_nil, List.cons_append]
  · simp only [Fragment.inBlock, List.flatMap_cons, hown, ← h.scripts, Fragment.empty,
      List.nil_append]

mutual

theorem Element.render_madeOf (e : Element) (ctx : DocumentContext) (placement : Placement)
    {f : Fragment} (h : e.render ctx placement = .ok f) : f.MadeOf ctx (e.placed placement) := by
  cases e with
  | mk n children =>
    rw [Element.placed]
    by_cases hcontainer : n.type.isContainer = true
    · -- what the container itself brings is the same with and without children
      obtain ⟨tag, extra, before, hrender⟩ :=
        Element.render_children ctx placement hcontainer
      have hown : n.own ctx placement =
          Fragment.empty.inBlock tag (boxAttrs n placement extra []) before := by
        rw [Node.own, hrender]
        rfl
      rw [hrender] at h
      cases hinner : Forest.render ctx n.type.inside children with
      | error e =>
        rw [hinner] at h
        cases h
      | ok inner =>
        rw [hinner] at h
        cases h
        rw [if_pos hcontainer]
        exact (Forest.render_madeOf children ctx n.type.inside hinner).container hown
    · rw [Element.render_childless children (Bool.eq_false_iff.2 hcontainer)] at h
      have hown : n.own ctx placement = f := by
        rw [Node.own, h]
        rfl
      rw [if_neg hcontainer]
      refine ⟨?_, ?_⟩
      · rw [List.flatMap_singleton, hown]
      · rw [List.flatMap_singleton, hown]

theorem Forest.render_madeOf (forest : List Element) (ctx : DocumentContext) (placement : Placement)
    {f : Fragment} (h : Forest.render ctx placement forest = .ok f) :
    f.MadeOf ctx (Forest.placed placement forest) := by
  cases forest with
  | nil =>
    cases h
    exact Fragment.madeOf_empty
  | cons e rest =>
    rw [Forest.render] at h
    obtain ⟨first, hfirst, hrest⟩ := bind_ok h
    obtain ⟨others, hothers, hboth⟩ := bind_ok hrest
    cases hboth
    exact (Element.render_madeOf e ctx placement hfirst).append
      (Forest.render_madeOf rest ctx placement hothers)

end

end Nodes

section Document

variable {ctx : DocumentContext} {sections : Sections} {options : ExportOptions}

/-- The rendered nodes of sections and how each of them is placed. -/
def placedNodes (ss : List Section) : List (Node × Placement) :=
  ss.flatMap fun s => Forest.placed .absolute s.elements

theorem Sections.placed_rendered (m : Sections) :
    (placedNodes m.ordered).map Prod.fst = m.rendered := by
  rw [placedNodes, List.map_flatMap, Sections.rendered]
  simp only [Forest.placed_nodes]

/-- The blocks of sections bring no script and nothing with a meaning for scripts. -/
theorem sectionFragments_madeOf {home : Option String} {ss : List Section} {f : Fragment}
    (h : sectionFragments ctx home ss = .ok f) :
    (∀ p : Token → Bool, (∀ t, p t = true → t.isMarked = true) →
      (Html.allStartTags f.markup).filter p = (placedNodes ss).flatMap fun x =>
        (Html.allStartTags (x.1.own ctx x.2).markup).filter p) ∧
      f.scripts = (placedNodes ss).flatMap fun x => (x.1.own ctx x.2).scripts := by
  induction ss generalizing f with
  | nil =>
    cases h
    exact ⟨fun _ _ => rfl, rfl⟩
  | cons s rest ih =>
    obtain ⟨first, hfirst, hrest⟩ := bind_ok h
    obtain ⟨others, hothers, hboth⟩ := bind_ok hrest
    cases hboth
    obtain ⟨inner, hinner, hblock⟩ := bind_ok hfirst
    cases hblock
    obtain ⟨htags, hscripts⟩ := ih hothers
    have hmade := Forest.render_madeOf s.elements ctx .absolute hinner
    have hnodes : placedNodes (s :: rest) =
        Forest.placed .absolute s.elements ++ placedNodes rest := List.flatMap_cons
    rw [hnodes, List.flatMap_append]
    -- the block around a section has no mark, so it is not among the start tags that count
    refine ⟨fun p hp => ?_, ?_⟩
    · rw [Fragment.append, Html.allStartTags_append, List.filter_append, htags p hp,
        List.flatMap_append, Fragment.inBlock, filter_block, List.nil_append, hmade.tags,
        List.filter_flatMap]
      exact Bool.eq_false_iff.2 fun hblock => absurd (hp _ hblock) (Bool.eq_false_iff.1 rfl)
    · rw [Fragment.append, Fragment.inBlock, hmade.scripts, hscripts]

/-- What has a meaning for scripts in a document is what its rendered nodes have when each is
rendered alone. -/
theorem documentTokens_placed {home : Option String} {body : Fragment}
    (h : sectionFragments ⟨sections, options⟩ home sections.ordered = .ok body) {p : Token → Bool}
    (hp : ∀ t, p t = true → t.isMarked = true) :
    (documentTokens sections options body).filter p =
      (placedNodes sections.ordered).flatMap fun x =>
        (Html.allStartTags (x.1.own ⟨sections, options⟩ x.2).markup).filter p := by
  rw [documentTokens_marked hp, (sectionFragments_madeOf h).1 p hp]

end Document

end PageBuilder
