import PageBuilder.Proofs.Html.Boxes
import PageBuilder.Proofs.Html.Compact

/-!
When a document is refused. A map without sections has none, and a catalog cannot be shown without
catalog options. Only the nodes that documents show count, and the first of them in the order of the
document names the error.
-/

namespace PageBuilder

/-- The first of some nodes that cannot be shown with the options of a document. -/
def firstRefused? (options : ExportOptions) (nodes : List Node) : Option Node :=
  if options.catalog.isSome then none else nodes.find? fun n => n.type == .catalogSection

/-- A step is refused at a node, or it succeeds. -/
def StopsAt {α : Type} (r : Except CompileError α) : Option Node → Prop
  | some n => r = .error (.missingCatalogIdentity n.id)
  | none => ∃ a, r = .ok a

section Refused

variable {options : ExportOptions} {n : Node}

theorem firstRefused?_nil : firstRefused? options [] = none := by
  unfold firstRefused?
  split <;> rfl

theorem firstRefused?_append (first second : List Node) :
    firstRefused? options (first ++ second) =
      (firstRefused? options first).or (firstRefused? options second) := by
  unfold firstRefused?
  split
  · rfl
  · exact List.find?_append

theorem firstRefused?_cons (h : n.type ≠ .catalogSection) (rest : List Node) :
    firstRefused? options (n :: rest) = firstRefused? options rest := by
  unfold firstRefused?
  rw [List.find?_cons_of_neg (by simpa using h)]

theorem firstRefused?_eq_some {nodes : List Node} :
    firstRefused? options nodes = some n ↔
      options.catalog = none ∧ n.type = .catalogSection ∧
        ∃ before behind, nodes = before ++ n :: behind ∧
          ∀ m ∈ before, m.type ≠ .catalogSection := by
  unfold firstRefused?
  cases options.catalog with
  | some catalog => simp
  | none => simp [List.find?_eq_some_iff_append]

theorem firstRefused?_eq_none {nodes : List Node} :
    firstRefused? options nodes = none ↔
      options.catalog.isSome = true ∨ ∀ n ∈ nodes, n.type ≠ .catalogSection := by
  unfold firstRefused?
  cases options.catalog <;> simp

end Refused

namespace StopsAt

variable {α β γ : Type} {r : Except CompileError α} {s : Except CompileError β} {n m : Option Node}

theorem map (h : StopsAt r n) (f : α → β) : StopsAt (r.map f) n := by
  cases n with
  | some n =>
    obtain rfl : r = .error (.missingCatalogIdentity n.id) := h
    rfl
  | none =>
    obtain ⟨a, rfl⟩ := h
    exact ⟨f a, rfl⟩

/-- Of two steps the first one that is refused decides. -/
theorem both (hr : StopsAt r n) (hs : StopsAt s m) (f : α → β → γ) :
    StopsAt (do let a ← r; let b ← s; return f a b) (n.or m) := by
  cases n with
  | some n =>
    obtain rfl : r = .error (.missingCatalogIdentity n.id) := hr
    rfl
  | none =>
    obtain ⟨a, rfl⟩ := hr
    exact hs.map (f a)

theorem ne_noSections (h : StopsAt r n) : r ≠ .error .noSections := by
  cases n with
  | some n =>
    obtain rfl : r = .error (.missingCatalogIdentity n.id) := h
    exact fun hsame => CompileError.noConfusion (Except.error.inj hsame)
  | none =>
    obtain ⟨a, rfl⟩ := h
    exact fun hsame => nomatch hsame

theorem error_iff (h : StopsAt r n) (id : String) :
    r = .error (.missingCatalogIdentity id) ↔ ∃ m, n = some m ∧ m.id = id := by
  cases n with
  | some n =>
    obtain rfl : r = .error (.missingCatalogIdentity n.id) := h
    simp
  | none =>
    obtain ⟨a, rfl⟩ := h
    simp

theorem ok_iff (h : StopsAt r n) : (∃ a, r = .ok a) ↔ n = none := by
  cases n with
  | some n =>
    obtain rfl : r = .error (.missingCatalogIdentity n.id) := h
    simp
  | none => exact iff_of_true h rfl

end StopsAt

section Rendering

variable {ctx : DocumentContext} {n : Node}

theorem Element.render_leaf (placement : Placement) (children : List Element)
    (hleaf : n.type.isContainer = false) (hplain : n.type ≠ .catalogSection) :
    ∃ f, (Element.mk n children).render ctx placement = .ok f := by
  rw [Element.render]
  cases htype : n.type with
  | catalogSection => exact absurd htype hplain
  | container | sectionBox | grid | columns | card | header =>
    rw [htype] at hleaf
    cases hleaf
  | _ => exact ⟨_, rfl⟩

theorem Element.render_container (placement : Placement) (children : List Element)
    (h : n.type.isContainer = true) :
    ∃ within wrap, (Element.mk n children).render ctx placement =
      (Forest.render ctx within children).map wrap := by
  rw [Element.render]
  cases htype : n.type with
  | container | sectionBox | grid | columns | card | header => exact ⟨_, _, rfl⟩
  | _ =>
    rw [htype] at h
    cases h

mutual

theorem Element.render_stopsAt (e : Element) (ctx : DocumentContext) (placement : Placement) :
    StopsAt (e.render ctx placement) (firstRefused? ctx.options e.rendered) := by
  cases e with
  | mk n children =>
    rw [Element.rendered]
    by_cases hcontainer : n.type.isContainer = true
    · obtain ⟨within, wrap, hrender⟩ := Element.render_container placement children hcontainer
      have hplain : n.type ≠ .catalogSection := fun htype => by
        rw [htype] at hcontainer
        cases hcontainer
      rw [hrender, if_pos hcontainer, firstRefused?_cons hplain]
      exact (Forest.render_stopsAt children ctx within).map wrap
    · -- the children of this node are not rendered, whatever they are
      rw [if_neg hcontainer]
      by_cases htype : n.type = .catalogSection
      · rw [Element.render, htype, firstRefused?]
        cases ctx.options.catalog with
        | some catalog => exact ⟨_, rfl⟩
        | none =>
          have hfound : [n].find? (fun n => n.type == .catalogSection) = some n := by simp [htype]
          exact hfound ▸ rfl
      · rw [firstRefused?_cons htype, firstRefused?_nil]
        exact Element.render_leaf placement children (Bool.eq_false_iff.2 hcontainer) htype

theorem Forest.render_stopsAt (forest : List Element) (ctx : DocumentContext)
    (placement : Placement) :
    StopsAt (Forest.render ctx placement forest)
      (firstRefused? ctx.options (Forest.rendered forest)) := by
  cases forest with
  | nil =>
    rw [Forest.rendered, firstRefused?_nil]
    exact ⟨_, rfl⟩
  | cons e rest =>
    rw [Forest.render, Forest.rendered, firstRefused?_append]
    exact (Element.render_stopsAt e ctx placement).both (Forest.render_stopsAt rest ctx placement) _

end

end Rendering

section Document

/-- The nodes that a document shows, in its order. -/
def Sections.rendered (m : Sections) : List Node :=
  m.ordered.flatMap fun s => Forest.rendered s.elements

theorem sectionFragments_stopsAt (ctx : DocumentContext) (home : Option String)
    (ss : List Section) :
    StopsAt (sectionFragments ctx home ss)
      (firstRefused? ctx.options (ss.flatMap fun s => Forest.rendered s.elements)) := by
  induction ss with
  | nil =>
    rw [List.flatMap_nil, firstRefused?_nil]
    exact ⟨_, rfl⟩
  | cons s rest ih =>
    rw [sectionFragments, List.flatMap_cons, firstRefused?_append, sectionFragment_eq]
    exact ((Forest.render_stopsAt s.elements ctx .absolute).map _).both ih _

theorem compileDocument_stopsAt {sections : Sections} (options : ExportOptions)
    (h : sections.isEmpty = false) :
    StopsAt (compileDocument sections options) (firstRefused? options sections.rendered) := by
  rw [compileDocument_map h]
  exact (sectionFragments_stopsAt ⟨sections, options⟩ _ _).map _

/-- A document is refused for lack of sections exactly if there are none. Otherwise it is refused for
a catalog exactly if there are no catalog options and a catalog is among the nodes that it shows; the
first of these in the order of the document is named. In all other cases there is a document. -/
theorem document_refused_iff (sections : Sections) (options : ExportOptions) :
    (compileDocument sections options = .error .noSections ↔ sections.isEmpty = true) ∧
    (∀ id, compileDocument sections options = .error (.missingCatalogIdentity id) ↔
      sections.isEmpty = false ∧ options.catalog = none ∧
        ∃ before n behind, sections.rendered = before ++ n :: behind ∧
          n.type = .catalogSection ∧ n.id = id ∧ ∀ m ∈ before, m.type ≠ .catalogSection) ∧
    ((∃ html, compileDocument sections options = .ok html) ↔
      sections.isEmpty = false ∧ (options.catalog.isSome = true ∨
        ∀ n ∈ sections.rendered, n.type ≠ .catalogSection)) := by
  cases hempty : sections.isEmpty with
  | true =>
    rw [compileDocument_empty hempty]
    simp
  | false =>
    have hstops := compileDocument_stopsAt options hempty
    refine ⟨iff_of_false hstops.ne_noSections Bool.false_ne_true, fun id => ?_, ?_⟩
    · rw [hstops.error_iff]
      simp only [firstRefused?_eq_some, true_and]
      constructor
      · rintro ⟨n, ⟨hoptions, htype, before, behind, hnodes, hbefore⟩, hid⟩
        exact ⟨hoptions, before, n, behind, hnodes, htype, hid, hbefore⟩
      · rintro ⟨hoptions, before, n, behind, hnodes, htype, hid, hbefore⟩
        exact ⟨n, ⟨hoptions, htype, before, behind, hnodes, hbefore⟩, hid⟩
    · rw [hstops.ok_iff, firstRefused?_eq_none]
      simp

/-- A catalog below a carousel is not shown, one in a container is. -/
def catalogSections : Sections :=
  let node (id : String) (type : ElementType) : Node := ⟨id, type, .empty, .empty, .origin, .auto⟩
  SortedMap.ofList [("home", { Section.home "home" "Home" with
    elements := [
      .mk (node "slides" .carousel) [.mk (node "hidden" .catalogSection) []],
      .mk (node "box" .container) [.mk (node "shown" .catalogSection) []]] })]

example : compileDocument catalogSections {} = .error (.missingCatalogIdentity "shown") := by
  decide +kernel

end Document

end PageBuilder
