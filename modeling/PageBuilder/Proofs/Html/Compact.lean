import PageBuilder.Proofs.Html.Document
import PageBuilder.Proofs.Section

/-!
Documents without line breaks. They are put together from what the sections are exported as one by
one: the blocks of the sections in order, the router, and then the scripts of the sections in order.
-/

namespace PageBuilder

section Layout

/-- What a piece says, wherever it stands. -/
def Piece.text : Piece → String
  | .line _ text => text
  | .raw text => text

theorem writePieces_compact {style : LayoutStyle} (h : style.pretty = false) (pieces : List Piece) :
    writePieces style pieces = String.join (pieces.map Piece.text) := by
  induction pieces with
  | nil => rfl
  | cons p rest ih =>
    have hfirst : p.write style = p.text := by
      cases p with
      | line depth text => rw [Piece.write, h, if_neg Bool.false_ne_true, Piece.text]
      | raw text => rfl
    rw [writePieces, ih, List.map_cons, String.join_cons, hfirst]

mutual

/-- Markup says the same at every depth. -/
theorem Html.pieces_text (depth other : Nat) (x : Html) :
    (x.pieces depth).map Piece.text = (x.pieces other).map Piece.text := by
  cases x with
  | line content => rfl
  | block tag attrs children =>
    have hchildren := Html.allPieces_text (depth + 1) (other + 1) children
    simp only [Html.pieces, List.map_append, List.map_cons, List.map_nil, hchildren, Piece.text]
  | style rules => simp only [Html.pieces, List.map_append, List.map_cons, List.map_nil,
      List.map_map, Function.comp_def, Piece.text]
  | script name body => rfl

theorem Html.allPieces_text (depth other : Nat) (children : List Html) :
    (Html.allPieces depth children).map Piece.text =
      (Html.allPieces other children).map Piece.text := by
  cases children with
  | nil => rfl
  | cons x rest =>
    rw [Html.allPieces, Html.allPieces, List.map_append, List.map_append,
      Html.pieces_text depth other x, Html.allPieces_text depth other rest]

end

/-- Markup without line breaks. -/
def compactText (h : List Html) : String := String.join ((Html.allPieces 0 h).map Piece.text)

theorem writePieces_allPieces {style : LayoutStyle} (h : style.pretty = false) (depth : Nat)
    (x : List Html) : writePieces style (Html.allPieces depth x) = compactText x := by
  rw [writePieces_compact h, compactText, Html.allPieces_text depth 0]

theorem Html.allPieces_append (depth : Nat) (first second : List Html) :
    Html.allPieces depth (first ++ second) =
      Html.allPieces depth first ++ Html.allPieces depth second := by
  induction first with
  | nil => rfl
  | cons x rest ih => rw [List.cons_append, Html.allPieces, Html.allPieces, ih, List.append_assoc]

theorem compactText_append (first second : List Html) :
    compactText (first ++ second) = compactText first ++ compactText second := by
  rw [compactText, Html.allPieces_append, List.map_append, String.join_append]
  rfl

theorem compactText_cons (x : Html) (rest : List Html) :
    compactText (x :: rest) = compactText [x] ++ compactText rest :=
  compactText_append [x] rest

theorem compactText_flatMap {α : Type} (f : α → List Html) (l : List α) :
    compactText (l.flatMap f) = String.join (l.map fun a => compactText (f a)) := by
  induction l with
  | nil => rfl
  | cons a rest ih =>
    rw [List.flatMap_cons, compactText_append, ih, List.map_cons, String.join_cons]

theorem join_flatMap {α : Type} (f : α → List String) (l : List α) :
    String.join (l.flatMap f) = String.join (l.map fun a => String.join (f a)) := by
  induction l with
  | nil => rfl
  | cons a rest ih =>
    rw [List.flatMap_cons, String.join_append, ih, List.map_cons, String.join_cons]

theorem compactText_block (tag : String) (attrs : List Attr) (children : List Html) :
    compactText [.block tag attrs children] =
      startTag tag attrs ++ compactText children ++ endTag tag := by
  have hinner :
      String.join ((Html.allPieces 1 children).map Piece.text) = compactText children := by
    rw [compactText, Html.allPieces_text 1 0]
  simp only [compactText, Html.allPieces, Html.pieces, List.append_nil, List.map_append,
    List.map_cons, List.map_nil, List.cons_append, String.join_cons, String.join_append,
    String.join_nil, Nat.zero_add, hinner, Piece.text, String.append_assoc, String.append_empty]

end Layout

section Blocks

/-- The element of a script. -/
def scriptElement (b : ScriptBlock) : String :=
  "<script data-module=\"" ++ escapeHtml b.behavior.name ++ "\">" ++ b.text ++ "\n</script>"

def scriptElements (scripts : List ScriptBlock) : String := String.join (scripts.map scriptElement)

theorem compactText_script (name body : String) :
    compactText [.script name body] =
      "<script data-module=\"" ++ escapeHtml name ++ "\">" ++ body ++ "\n</script>" := by
  rw [← String.toList_inj]
  simp [compactText, Html.allPieces, Html.pieces, Piece.text, startTag, attrsText, Attr.text, attr]

theorem compactText_scriptsHtml (scripts : List ScriptBlock) :
    compactText (scriptsHtml scripts) = scriptElements scripts := by
  induction scripts with
  | nil => rfl
  | cons b rest ih =>
    have hrest : compactText (scriptsHtml (b :: rest)) =
        compactText [.script b.behavior.name b.text] ++ compactText (scriptsHtml rest) :=
      compactText_cons _ _
    rw [hrest, compactText_script, ih]
    unfold scriptElements
    rw [List.map_cons, String.join_cons]
    unfold scriptElement
    rfl

variable (options : ExportOptions) (s : Section) (inner : Fragment)

/-- The block of a section up to whether it is shown. -/
def sectionOpening : String :=
  "<div class=\"pc-section\" id=\"section-" ++ escapeHtml s.slug ++ "\" data-section-id=\"" ++
    escapeHtml s.id ++ "\" data-slug=\"" ++ escapeHtml s.slug ++ "\" style=\"display: "

/-- The block of a section behind whether it is shown, with the markup of its elements. -/
def sectionRest : String :=
  escapeHtml ("; position: relative; width: " ++ formatPx options.canvasWidth ++ "; min-height: " ++
    formatPx (sectionHeight s) ++ "; margin: 0 auto;") ++ "\">" ++ compactText inner.markup ++
    "</div>"

/-- The block of a section, shown or not. -/
def sectionBlock (visible : Bool) : String :=
  sectionOpening s ++ (if visible then "block" else "none") ++ sectionRest options s inner

theorem sectionStyle_css (ctx : DocumentContext) (visible : Bool) :
    (sectionStyle ctx visible s).css = "display: " ++ (if visible then "block" else "none") ++
      ("; position: relative; width: " ++ formatPx ctx.options.canvasWidth ++ "; min-height: " ++
        formatPx (sectionHeight s) ++ "; margin: 0 auto;") := by
  generalize hwidth : formatPx ctx.options.canvasWidth = width
  generalize hheight : formatPx (sectionHeight s) = height
  rw [← String.toList_inj]
  cases visible <;> simp [sectionStyle, Declarations.css, Declarations.line, hwidth, hheight]

/-- A fragment in the block of a section. -/
def inSection (ctx : DocumentContext) (visible : Bool) : Fragment :=
  inner.inBlock "div" [attr "class" "pc-section", attr "id" ("section-" ++ s.slug),
    attr "data-section-id" s.id, attr "data-slug" s.slug,
    attr "style" (sectionStyle ctx visible s).css] []

theorem compactText_inSection (ctx : DocumentContext) (visible : Bool) :
    compactText (inSection s inner ctx visible).markup =
      sectionBlock ctx.options s inner visible := by
  have hfixed : escapeHtml "pc-section" = "pc-section" ∧ escapeHtml "section-" = "section-" ∧
      escapeHtml "display: " = "display: " ∧
      escapeHtml (if visible then "block" else "none") = if visible then "block" else "none" := by
    cases visible <;> decide
  unfold inSection
  rw [Fragment.inBlock, List.nil_append, compactText_block, sectionStyle_css]
  unfold sectionBlock sectionOpening sectionRest
  generalize compactText inner.markup = text
  simp only [startTag, attrsText, Attr.text, attr, endTag, escapeHtml_append, hfixed]
  rw [← String.toList_inj]
  simp

end Blocks

/-- A step that may fail is taken for every item, or there is a first one that it fails for. -/
theorem all_ok_or_first_error {ε α β : Type} (f : α → Except ε β) (l : List α) :
    (∀ a ∈ l, ∃ b, f a = .ok b) ∨
      ∃ before a behind e, l = before ++ a :: behind ∧ (∀ x ∈ before, ∃ b, f x = .ok b) ∧
        f a = .error e := by
  induction l with
  | nil => exact Or.inl (List.forall_mem_nil _)
  | cons a rest ih =>
    cases hfirst : f a with
    | error e => exact Or.inr ⟨[], a, rest, e, rfl, List.forall_mem_nil _, hfirst⟩
    | ok b =>
      rcases ih with hall | ⟨before, x, behind, e, rfl, hbefore, hx⟩
      · exact Or.inl (List.forall_mem_cons.2 ⟨⟨b, hfirst⟩, hall⟩)
      · exact Or.inr ⟨a :: before, x, behind, e, rfl,
          List.forall_mem_cons.2 ⟨⟨b, hfirst⟩, hbefore⟩, hx⟩

section Document

variable {sections : Sections} {options : ExportOptions}

/-- What the elements of a section are rendered as. -/
def Section.inner (ctx : DocumentContext) (s : Section) : Except CompileError Fragment :=
  Forest.render ctx .absolute s.elements

theorem sectionFragment_eq (ctx : DocumentContext) (visible : Bool) (s : Section) :
    sectionFragment ctx visible s =
      (s.inner ctx).map fun inner => inSection s inner ctx visible := by
  unfold sectionFragment Section.inner
  cases Forest.render ctx .absolute s.elements <;> rfl

theorem compileSection_eq (hcompact : options.pretty = false) (s : Section) :
    compileSection s sections options = (s.inner ⟨sections, options⟩).map fun inner =>
      sectionBlock options s inner true ++ scriptElements inner.scripts := by
  unfold compileSection sectionPieces
  rw [sectionFragment_eq]
  cases s.inner ⟨sections, options⟩ with
  | error e => rfl
  | ok inner =>
    have hlayout : options.layout.pretty = false := hcompact
    have hblock := compactText_inSection s inner ⟨sections, options⟩ true
    have hscripts := compactText_scriptsHtml inner.scripts
    change Except.ok (writePieces options.layout (Html.allPieces 0
      ((inSection s inner ⟨sections, options⟩ true).markup ++ scriptsHtml inner.scripts))) = _
    rw [writePieces_allPieces hlayout, compactText_append, hblock, hscripts]
    rfl

/-- Where the elements of all sections are rendered, so are the blocks. -/
theorem sectionFragments_ok {ctx : DocumentContext} {home : Option String} {ss : List Section}
    {inner : Section → Fragment} (h : ∀ s ∈ ss, s.inner ctx = .ok (inner s)) :
    sectionFragments ctx home ss =
      .ok ⟨ss.flatMap fun s => (inSection s (inner s) ctx (home == some s.id)).markup,
        ss.flatMap fun s => (inner s).scripts⟩ := by
  induction ss with
  | nil => rfl
  | cons s rest ih =>
    obtain ⟨hfirst, hrest⟩ := List.forall_mem_cons.1 h
    rw [sectionFragments, sectionFragment_eq, hfirst, ih hrest]
    rfl

/-- The first section whose elements are not rendered gives the error. -/
theorem sectionFragments_error {ctx : DocumentContext} {home : Option String}
    {before behind : List Section} {s : Section} {e : CompileError}
    (hbefore : ∀ t ∈ before, ∃ inner, t.inner ctx = .ok inner) (hs : s.inner ctx = .error e) :
    sectionFragments ctx home (before ++ s :: behind) = .error e := by
  induction before with
  | nil =>
    rw [List.nil_append, sectionFragments, sectionFragment_eq, hs]
    rfl
  | cons t rest ih =>
    obtain ⟨⟨inner, hfirst⟩, hrest⟩ := List.forall_mem_cons.1 hbefore
    rw [List.cons_append, sectionFragments, sectionFragment_eq, hfirst, ih hrest]
    rfl

theorem compileDocument_empty (h : sections.isEmpty = true) :
    compileDocument sections options = .error .noSections := by
  rw [compileDocument, documentPieces, if_pos h]
  rfl

theorem compileDocument_map (h : sections.isEmpty = false) :
    compileDocument sections options =
      (sectionFragments ⟨sections, options⟩ (sections.home?.map Section.id) sections.ordered).map
        fun body => writePieces options.layout
          (.line 0 doctype :: Html.allPieces 0 [documentHtml sections options body]) := by
  unfold compileDocument documentPieces
  rw [if_neg (by simp [h])]
  dsimp only
  cases sectionFragments ⟨sections, options⟩ (sections.home?.map Section.id) sections.ordered with
  | error e => rfl
  | ok body =>
    have hpieces : Html.allPieces 0 [documentHtml sections options body] =
        (documentHtml sections options body).pieces 0 := by
      rw [Html.allPieces, Html.allPieces, List.append_nil]
    refine congrArg Except.ok (?_ : _ = writePieces options.layout
      (.line 0 doctype :: Html.allPieces 0 [documentHtml sections options body]))
    rw [hpieces]
    rfl

/-- A document up to its sections. -/
def documentHead (options : ExportOptions) : String :=
  "<!DOCTYPE html><html lang=\"" ++ escapeHtml options.lang ++ "\">" ++
    compactText [headHtml options.title] ++ "<body>"

theorem documentText_compact (hcompact : options.pretty = false) (body : Fragment) :
    writePieces options.layout
      (.line 0 doctype :: Html.allPieces 0 [documentHtml sections options body]) =
        documentHead options ++ compactText body.markup ++
          scriptElements (routerScript sections :: body.scripts) ++ "</body></html>" := by
  have hlayout : options.layout.pretty = false := hcompact
  have hscripts := compactText_scriptsHtml (routerScript sections :: body.scripts)
  have hbody := compactText_block "body" []
    (body.markup ++ scriptsHtml (routerScript sections :: body.scripts))
  rw [compactText_append, hscripts] at hbody
  rw [writePieces, writePieces_allPieces hlayout, documentHtml, compactText_block, compactText_cons,
    hbody]
  unfold documentHead
  generalize scriptElements (routerScript sections :: body.scripts) = scripts
  generalize compactText body.markup = blocks
  generalize compactText [headHtml options.title] = head
  rw [← String.toList_inj]
  simp [Piece.write, hlayout, doctype, startTag, attrsText, Attr.text, attr, endTag]

theorem compileSection_ok_iff (hcompact : options.pretty = false) (s : Section) :
    (∃ text, compileSection s sections options = .ok text) ↔
      ∃ inner, s.inner ⟨sections, options⟩ = .ok inner := by
  rw [compileSection_eq hcompact]
  cases s.inner ⟨sections, options⟩ <;> simp [Except.map]

theorem compileSection_error_iff (hcompact : options.pretty = false) (s : Section)
    (e : CompileError) :
    compileSection s sections options = .error e ↔ s.inner ⟨sections, options⟩ = .error e := by
  rw [compileSection_eq hcompact]
  cases s.inner ⟨sections, options⟩ <;> simp [Except.map]

theorem compileDocument_ok (hsections : sections.isEmpty = false)
    (hcompact : options.pretty = false) {inner : Section → Fragment}
    (h : ∀ s ∈ sections.ordered, s.inner ⟨sections, options⟩ = .ok (inner s)) :
    compileDocument sections options = .ok (documentHead options ++
      String.join (sections.ordered.map fun s =>
        sectionBlock options s (inner s) (sections.home?.map Section.id == some s.id)) ++
      scriptElement (routerScript sections) ++
      String.join (sections.ordered.map fun s => scriptElements (inner s).scripts) ++
      "</body></html>") := by
  have hscripts : scriptElements (routerScript sections ::
        sections.ordered.flatMap fun s => (inner s).scripts) =
      scriptElement (routerScript sections) ++
        String.join (sections.ordered.map fun s => scriptElements (inner s).scripts) := by
    unfold scriptElements
    rw [List.map_cons, String.join_cons, List.map_flatMap, join_flatMap]
  rw [compileDocument_map hsections, sectionFragments_ok h]
  refine congrArg Except.ok (?_ : writePieces options.layout
    (.line 0 doctype :: Html.allPieces 0 [documentHtml sections options _]) = _)
  rw [documentText_compact hcompact, compactText_flatMap, hscripts]
  simp only [compactText_inSection, String.append_assoc]

theorem compileDocument_error (hsections : sections.isEmpty = false) {before behind : List Section}
    {s : Section} {e : CompileError} (hordered : sections.ordered = before ++ s :: behind)
    (hbefore : ∀ t ∈ before, ∃ inner, t.inner ⟨sections, options⟩ = .ok inner)
    (hs : s.inner ⟨sections, options⟩ = .error e) :
    compileDocument sections options = .error e := by
  rw [compileDocument_map hsections, hordered, sectionFragments_error hbefore hs]
  rfl

theorem mem_ordered {s : Section} : s ∈ sections.ordered ↔ s ∈ sections.values :=
  (List.mergeSort_perm _ _).mem_iff

/-- A document without line breaks is made of what its sections are exported as. It is there exactly
if each of them is, and then it has their blocks in order, shown only with the home section's id,
the router, and their scripts in the same order. Otherwise the first section that is not exported
tells why. -/
theorem document_joins_sections (hsections : sections.isEmpty = false)
    (hcompact : options.pretty = false) :
    ((∃ html, compileDocument sections options = .ok html) ↔
      ∀ s ∈ sections.values, ∃ text, compileSection s sections options = .ok text) ∧
    (∀ html, compileDocument sections options = .ok html →
      ∃ inner : Section → Fragment,
        (∀ s ∈ sections.values,
          Forest.render ⟨sections, options⟩ .absolute s.elements = .ok (inner s) ∧
          compileSection s sections options =
            .ok (sectionBlock options s (inner s) true ++ scriptElements (inner s).scripts)) ∧
        html = documentHead options ++
          String.join (sections.ordered.map fun s =>
            sectionBlock options s (inner s) (sections.home?.map Section.id == some s.id)) ++
          scriptElement (routerScript sections) ++
          String.join (sections.ordered.map fun s => scriptElements (inner s).scripts) ++
          "</body></html>") ∧
    ∀ e, compileDocument sections options = .error e ↔
      ∃ before s behind, sections.ordered = before ++ s :: behind ∧
        (∀ t ∈ before, ∃ text, compileSection t sections options = .ok text) ∧
        compileSection s sections options = .error e := by
  have hvalues {p : Section → Prop} :
      (∀ s ∈ sections.values, p s) ↔ ∀ s ∈ sections.ordered, p s := by
    simp only [mem_ordered]
  simp only [hvalues, compileSection_ok_iff hcompact, compileSection_error_iff hcompact]
  rcases all_ok_or_first_error (Section.inner ⟨sections, options⟩) sections.ordered with
    hall | ⟨before, s, behind, e, hordered, hbefore, hs⟩
  · -- every section is exported
    let inner (s : Section) : Fragment := (s.inner ⟨sections, options⟩).toOption.getD .empty
    have hinner : ∀ s ∈ sections.ordered, s.inner ⟨sections, options⟩ = .ok (inner s) := by
      intro s hs
      obtain ⟨f, hf⟩ := hall s hs
      simp only [inner, hf]
      rfl
    have hdocument := compileDocument_ok hsections hcompact hinner
    refine ⟨⟨fun _ => hall, fun _ => ⟨_, hdocument⟩⟩, fun html hhtml => ?_, fun e => ?_⟩
    · rw [hdocument] at hhtml
      refine ⟨inner, fun s hs => ⟨hinner s hs, ?_⟩, (Except.ok.inj hhtml).symm⟩
      rw [compileSection_eq hcompact, hinner s hs]
      rfl
    · constructor
      · intro herror
        rw [hdocument] at herror
        cases herror
      · rintro ⟨before, s, behind, hordered, -, hs⟩
        obtain ⟨f, hf⟩ := hall s (by rw [hordered]; simp)
        rw [hf] at hs
        cases hs
  · have hdocument := compileDocument_error hsections hordered hbefore hs
    refine ⟨⟨?_, fun hall => ?_⟩, fun html hhtml => ?_, fun e' => ⟨fun herror => ?_, ?_⟩⟩
    · rintro ⟨html, hhtml⟩
      rw [hdocument] at hhtml
      cases hhtml
    · obtain ⟨f, hf⟩ := hall s (by rw [hordered]; simp)
      rw [hf] at hs
      cases hs
    · rw [hdocument] at hhtml
      cases hhtml
    · rw [hdocument] at herror
      obtain rfl := Except.error.inj herror
      exact ⟨before, s, behind, hordered, hbefore, hs⟩
    · rintro ⟨before, s, behind, hordered, hbefore, hs⟩
      exact compileDocument_error hsections hordered hbefore hs

def compactOptions : ExportOptions := { pretty := false }

/-- A shown section with a form and a hidden one with a carousel. -/
def pairSections : Sections :=
  let node (id : String) (type : ElementType) : Node := ⟨id, type, .empty, .empty, .origin, .auto⟩
  SortedMap.ofList [
    ("a", { Section.new "a" "About" with elements := [.mk (node "slides" .carousel) []] }),
    ("h", { Section.home "h" "Home" with elements := [.mk (node "find" .searchForm) []] })]

theorem document_joins_sections_pair :
    pairSections.isEmpty = false ∧ pairSections.home?.map Section.id = some "h" ∧
      ∃ (html : String) (inner : Section → Fragment),
        compileDocument pairSections compactOptions = .ok html ∧
        html = documentHead compactOptions ++
          String.join (pairSections.ordered.map fun s => sectionBlock compactOptions s (inner s)
            (pairSections.home?.map Section.id == some s.id)) ++
          scriptElement (routerScript pairSections) ++
          String.join (pairSections.ordered.map fun s => scriptElements (inner s).scripts) ++
          "</body></html>" := by
  have hsections : pairSections.isEmpty = false := by decide +kernel
  have hcompact : compactOptions.pretty = false := rfl
  obtain ⟨hok, hjoin, -⟩ := document_joins_sections hsections hcompact
  have hexported : ∀ s ∈ pairSections.values,
      (compileSection s pairSections compactOptions).isOk = true := by decide +kernel
  obtain ⟨html, h⟩ := hok.2 fun s hs => ok_of_isOk (hexported s hs)
  obtain ⟨inner, -, htext⟩ := hjoin html h
  exact ⟨hsections, by decide +kernel, html, inner, h, htext⟩

end Document

end PageBuilder
