import PageBuilder.Proofs.Html.Writer

/-!
Documents line by line. What an element, a section and a document write is put down here a second
time, as steps of a writer with every change of the indentation at its place, and shown to be the
text of the same tree of markup. So the indentation is where it was after every element and every
section, and a document with line breaks differs from one without them by its layout alone.
-/

namespace PageBuilder

section Steps

def cardPartsSteps (image alt title content : String) : List WriterStep :=
  linesOf (htmlIf (!image.isEmpty) [.line (.span "div" [attr "class" "pc-card-image"]
    [.void "img" [attr "src" (safeUrl image), attr "alt" alt, attr "loading" "lazy"] true])]) ++
  (opens "div" [attr "class" "pc-card-body"] ++
    (linesOf (spanUnlessEmpty "h3" [attr "class" "pc-card-title"] title) ++
      linesOf (spanUnlessEmpty "p" [attr "class" "pc-card-content"] content)) ++
    closes "div")

def slideSteps (index : Nat) (slide : Json) : List WriterStep :=
  let image := itemText slide ["image", "src", "url"]
  let title := itemText slide ["title"]
  let description := itemText slide ["description", "subtitle", "text"]
  opens "div" [attr "class" (activeClass "pc-carousel-slide" index),
    attr "data-index" (toString index)] ++
  (linesOf (htmlIf (!image.isEmpty) [.line (.void "img"
      [attr "src" (safeUrl image), attr "alt" (itemText slide ["alt", "title"])] true)]) ++
    if !title.isEmpty || !description.isEmpty then
      opens "div" [attr "class" "pc-carousel-caption"] ++
        (linesOf (spanUnlessEmpty "h3" [] title) ++ linesOf (spanUnlessEmpty "p" [] description)) ++
        closes "div"
    else []) ++
  closes "div"

def carouselSteps (n : Node) (placement : Placement) : List WriterStep :=
  let slides := n.propItems "slides"
  let several : Bool := 1 < slides.length
  opens "div" (boxAttrs n placement [] [attr "data-carousel" (instanceId "carousel" n.id)]) ++
  (opens "div" [attr "class" "pc-carousel-track"] ++ (slides.mapIdx slideSteps).flatten ++
      closes "div" ++
    linesOf (htmlIf ((n.propBool? "showArrows").getD true && several) (arrows "carousel")) ++
    if (n.propBool? "showDots").getD true && several then
      opens "div" [attr "class" "pc-carousel-dots"] ++
        linesOf ((List.range slides.length).map dotHtml) ++ closes "div"
    else []) ++
  closes "div" ++
  (carouselFragment n placement).scripts.map .script

def cardItemSteps (ctx : DocumentContext) (card : Json) : List WriterStep :=
  opens "div" [attr "class" "pc-cards-item"] ++
  (opens "div" [attr "class" "pc-card"] ++
    (cardPartsSteps (itemText card ["image", "src"]) (itemText card ["alt", "title"])
        (itemText card ["title"]) (itemText card ["description", "content", "text"]) ++
      linesOf (cardButton ctx card)) ++
    closes "div") ++
  closes "div"

def cardsCarouselSteps (ctx : DocumentContext) (n : Node) (placement : Placement) :
    List WriterStep :=
  let cards := n.propItems "cards"
  let visible := wholeBetween 1.0 6.0 ((n.propNumber? "visibleCards").getD 3.0)
  opens "div" (boxAttrs n placement [] [attr "data-cards-carousel" (instanceId "cards" n.id)]) ++
  (opens "div" [attr "class" "pc-cards-viewport"] ++
      (opens "div" [attr "class" "pc-cards-track"] ++ cards.flatMap (cardItemSteps ctx) ++
        closes "div") ++
      closes "div" ++
    linesOf (htmlIf (visible < cards.length) (arrows "cards"))) ++
  closes "div" ++
  (cardsCarouselFragment ctx n placement).scripts.map .script

def catalogModalSteps : List WriterStep :=
  opens "div" [attr "class" "pc-modal", flag "hidden"] ++
  (opens "div" [attr "class" "pc-modal-dialog", attr "role" "dialog", attr "aria-modal" "true"] ++
    linesOf [.line (.span "button" [attr "class" "pc-modal-close", attr "type" "button",
        attr "aria-label" "Close"] [.entity "times"]),
      textSpan "div" [attr "class" "pc-modal-body"] ""] ++
    closes "div") ++
  closes "div"

def catalogSteps (catalog : CatalogOptions) (n : Node) (placement : Placement) :
    List WriterStep :=
  opens "div" (boxAttrs n placement [] [attr "data-catalog" (instanceId "catalog" n.id)]) ++
  (opens "div" [attr "class" "pc-catalog-header"] ++
      (linesOf (spanUnlessEmpty "h2" [] (n.text ["title"])) ++
        linesOf (htmlIf ((n.propBool? "showSearch").getD true)
          [catalogSearch (n.textOr ["searchPlaceholder"] "Search by name or code")])) ++
      closes "div" ++
    linesOf (["breadcrumb", "families", "collections", "grid", "pagination"].map fun part =>
      textSpan "div" [attr "class" ("pc-catalog-" ++ part)] "") ++
    (linesOf [textSpan "div" [attr "class" "pc-catalog-status", attr "aria-live" "polite"] ""] ++
      catalogModalSteps)) ++
  closes "div" ++
  (catalogFragment catalog n placement).scripts.map .script

def formControlsSteps (n : Node) : List WriterStep :=
  match n.type with
  | .contactForm =>
    linesOf ((formFields n).map FormField.html) ++
      linesOf [submitButton (n.textOr ["submitText"] "Send")]
  | .newsletterForm =>
    opens "div" [attr "class" "pc-form-row"] ++
      linesOf [.line (.void "input" [attr "type" "email", attr "name" "email",
          attr "placeholder" (n.textOr ["placeholder"] "you@example.com"), flag "required"] true),
        submitButton (n.textOr ["buttonText"] "Subscribe")] ++
      closes "div"
  | _ =>
    linesOf [.line (.void "input" [attr "type" "search", attr "name" "q",
        attr "placeholder" (n.textOr ["placeholder"] "Search…")] true),
      submitButton (n.textOr ["buttonText"] "Search")]

def formSteps (n : Node) (placement : Placement) : List WriterStep :=
  let kind := formKind n.type
  let search := kind == "search"
  opens "form" (boxAttrs n placement [] ([attr "data-form" (instanceId kind n.id),
    flag "novalidate"] ++ (if search then [attr "role" "search"] else []))) ++
  (linesOf (spanUnlessEmpty "h3" [] (n.text ["title"])) ++
    linesOf (spanUnlessEmpty "p" [] (n.text ["description"])) ++ formControlsSteps n ++
    linesOf (htmlIf (!search)
      [textSpan "div" [attr "class" "pc-form-status", attr "aria-live" "polite"] ""])) ++
  closes "form" ++
  (formFragment n placement).scripts.map .script

def headerNavSteps (ctx : DocumentContext) (n : Node) : List WriterStep :=
  match n.propItems "links" with
  | [] => []
  | links =>
    opens "nav" [attr "class" "pc-header-nav"] ++
      linesOf ((links.filter fun l => l.members?.isSome).map (headerLink ctx)) ++ closes "nav"

mutual

/-- What an element writes, step by step. -/
def Element.steps (ctx : DocumentContext) (placement : Placement) :
    Element → Except CompileError (List WriterStep)
  | .mk n children =>
    let leaf (tag : String) (attrs : List Attr) (content : List Inline) :
        Except CompileError (List WriterStep) :=
      .ok (linesOf (leafFragment n placement tag attrs content).markup)
    match n.type with
    | .text => leaf "p" [] [.text (n.text ["content", "text"])]
    | .heading =>
      leaf ("h" ++ toString (headingLevel n)) [] [.text (n.text ["content", "text"])]
    | .button => .ok (linesOf (buttonFragment ctx n placement).markup)
    | .image => .ok (linesOf (imageFragment n placement).markup)
    | .video => .ok (linesOf (videoFragment n placement).markup)
    | .icon => leaf "span" [attr "aria-hidden" "true"] [.text (n.text ["icon", "content"])]
    | .container => do
      let inner ← Forest.steps ctx .absolute children
      return opens "div" (boxAttrs n placement [] []) ++ inner ++ closes "div"
    | .sectionBox => do
      let inner ← Forest.steps ctx .absolute children
      return opens "section" (boxAttrs n placement [] []) ++ inner ++ closes "section"
    | .grid => do
      let inner ← Forest.steps ctx .flow children
      return opens "div" (boxAttrs n placement (gridStyle n 3.0) []) ++ inner ++ closes "div"
    | .columns => do
      let inner ← Forest.steps ctx .flow children
      return opens "div" (boxAttrs n placement (gridStyle n 2.0) []) ++ inner ++ closes "div"
    | .card => do
      let inner ← Forest.steps ctx .absolute children
      let parts := cardPartsSteps (n.text ["image", "src"]) (n.text ["alt", "title"])
        (n.text ["title"]) (n.text ["content", "description", "text"])
      return opens "div" (boxAttrs n placement [] []) ++ (parts ++ inner) ++ closes "div"
    | .header => do
      let inner ← Forest.steps ctx .absolute children
      return opens "header" (boxAttrs n placement [] []) ++
        (linesOf (headerLogo n) ++ headerNavSteps ctx n ++ inner) ++ closes "header"
    | .rectangle | .circle | .triangle | .divider => leaf "div" [] []
    | .spacer => leaf "div" [attr "aria-hidden" "true"] []
    | .carousel => .ok (carouselSteps n placement)
    | .cardsCarousel => .ok (cardsCarouselSteps ctx n placement)
    | .catalogSection =>
      match ctx.options.catalog with
      | some catalog => .ok (catalogSteps catalog n placement)
      | none => .error (.missingCatalogIdentity n.id)
    | .contactForm | .newsletterForm | .searchForm => .ok (formSteps n placement)

/-- What siblings write, one after the other. -/
def Forest.steps (ctx : DocumentContext) (placement : Placement) :
    List Element → Except CompileError (List WriterStep)
  | [] => .ok []
  | e :: rest => do
    let first ← e.steps ctx placement
    let others ← Forest.steps ctx placement rest
    return first ++ others

end

end Steps

section Templates

theorem arrows_lines (kind : String) : ∀ x ∈ arrows kind, x.IsLine :=
  isLine_cons _ (isLine_one _)

/-- Two texts one below the other, of which each may be missing. -/
theorem texts_write (tag : String) (attrs : List Attr) (s tag' : String) (attrs' : List Attr)
    (s' : String) :
    Writes (linesOf (spanUnlessEmpty tag attrs s) ++ linesOf (spanUnlessEmpty tag' attrs' s'))
      ⟨spanUnlessEmpty tag attrs s ++ spanUnlessEmpty tag' attrs' s', []⟩ :=
  (Writes.lines (isLine_spanUnlessEmpty tag attrs s)).below
    (.lines (isLine_spanUnlessEmpty tag' attrs' s'))

theorem cardParts_writes (image alt title content : String) :
    Writes (cardPartsSteps image alt title content) ⟨cardParts image alt title content, []⟩ := by
  have htexts := texts_write "h3" [attr "class" "pc-card-title"] title
    "p" [attr "class" "pc-card-content"] content
  refine Writes.below (.lines (isLine_htmlIf ?_)) htexts.inside_block
  exact isLine_one _

theorem slideHtml_writes (index : Nat) (slide : Json) :
    Writes (slideSteps index slide) ⟨[slideHtml index slide], []⟩ := by
  have htexts := texts_write "h3" [] (itemText slide ["title"])
    "p" [] (itemText slide ["description", "subtitle", "text"])
  refine Writes.inside_block (.below (.lines (isLine_htmlIf ?_)) (.ite htexts.inside_block))
  exact isLine_one _

theorem slides_write (slides : List Json) :
    Writes (slides.mapIdx slideSteps).flatten ⟨slides.mapIdx slideHtml, []⟩ := by
  rw [List.mapIdx_eq_zipIdx_map, List.mapIdx_eq_zipIdx_map, ← List.flatMap_def]
  exact .flatMap fun item _ => slideHtml_writes item.2 item.1

theorem carouselFragment_writes (n : Node) (placement : Placement) :
    Writes (carouselSteps n placement) (carouselFragment n placement) := by
  have hdots : ∀ x ∈ (List.range (n.propItems "slides").length).map dotHtml, x.IsLine :=
    isLine_map (fun _ => ⟨_, rfl⟩) _
  refine Writes.with_scripts (.inside_block (.below (.below (.inside_block (slides_write _)) ?_) ?_)) _
  · exact .lines (isLine_htmlIf (arrows_lines "carousel"))
  · exact .ite (Writes.lines hdots).inside_block

theorem cardItem_writes (ctx : DocumentContext) (card : Json) :
    Writes (cardItemSteps ctx card) ⟨[cardItem ctx card], []⟩ := by
  have hbutton : ∀ x ∈ cardButton ctx card, x.IsLine := isLine_spanUnlessEmpty _ _ _
  exact .inside_block (.inside_block (.below (cardParts_writes _ _ _ _) (.lines hbutton)))

theorem cardsCarouselFragment_writes (ctx : DocumentContext) (n : Node) (placement : Placement) :
    Writes (cardsCarouselSteps ctx n placement) (cardsCarouselFragment ctx n placement) := by
  have hcards : Writes ((n.propItems "cards").flatMap (cardItemSteps ctx))
      ⟨(n.propItems "cards").map (cardItem ctx), []⟩ :=
    .flatMap fun card _ => cardItem_writes ctx card
  refine Writes.with_scripts (.inside_block (.below (.inside_block hcards.inside_block) ?_)) _
  exact .lines (isLine_htmlIf (arrows_lines "cards"))

theorem catalogModal_writes : Writes catalogModalSteps ⟨[catalogModal], []⟩ := by
  refine .inside_block (.inside_block (.lines ?_))
  exact isLine_cons _ (isLine_one _)

theorem catalogFragment_writes (catalog : CatalogOptions) (n : Node) (placement : Placement) :
    Writes (catalogSteps catalog n placement) (catalogFragment catalog n placement) := by
  have hsearch : ∀ x ∈ htmlIf ((n.propBool? "showSearch").getD true)
      [catalogSearch (n.textOr ["searchPlaceholder"] "Search by name or code")], x.IsLine :=
    isLine_htmlIf (isLine_one _)
  have hheader := (Writes.lines (isLine_spanUnlessEmpty "h2" [] (n.text ["title"]))).below
    (Writes.lines hsearch)
  have hparts : ∀ x ∈ ["breadcrumb", "families", "collections", "grid", "pagination"].map
      fun part => textSpan "div" [attr "class" ("pc-catalog-" ++ part)] "", x.IsLine :=
    isLine_map (fun _ => ⟨_, rfl⟩) _
  let status := textSpan "div" [attr "class" "pc-catalog-status", attr "aria-live" "polite"] ""
  have hstatus : Writes (linesOf [status]) ⟨[status], []⟩ :=
    .lines (isLine_one _)
  have hends : Writes (linesOf [status] ++ catalogModalSteps) ⟨[status, catalogModal], []⟩ :=
    hstatus.below catalogModal_writes
  exact .with_scripts (.inside_block (.below (.below hheader.inside_block (.lines hparts)) hends)) _

theorem formControls_writes (n : Node) :
    Writes (formControlsSteps n) ⟨formControls n, []⟩ := by
  have hfields : ∀ x ∈ (formFields n).map FormField.html, x.IsLine :=
    isLine_map (fun _ => ⟨_, rfl⟩) _
  unfold formControlsSteps formControls
  cases n.type with
  | contactForm => exact .below (.lines hfields) (.lines (isLine_one _))
  | newsletterForm =>
    refine .inside_block (.lines ?_)
    exact isLine_cons _ (isLine_one _)
  | _ =>
    refine .lines ?_
    exact isLine_cons _ (isLine_one _)

theorem formFragment_writes (n : Node) (placement : Placement) :
    Writes (formSteps n placement) (formFragment n placement) := by
  have htexts := texts_write "h3" [] (n.text ["title"]) "p" [] (n.text ["description"])
  refine Writes.with_scripts (.inside_block (.below (htexts.below (formControls_writes n)) ?_)) _
  exact .lines (isLine_htmlIf (isLine_one _))

theorem buttonFragment_writes (ctx : DocumentContext) (n : Node) (placement : Placement) :
    Writes (linesOf (buttonFragment ctx n placement).markup) (buttonFragment ctx n placement) := by
  unfold buttonFragment
  dsimp only
  cases LinkTarget.ofMembers n.props.get? with
  | toSection id => exact .lines (isLine_one _)
  | toUrl url => exact .lines (isLine_one _)
  | nowhere => exact .lines (isLine_one _)

theorem headerLogo_lines (n : Node) : ∀ x ∈ headerLogo n, x.IsLine := by
  unfold headerLogo
  dsimp only
  split
  · exact isLine_one _
  · exact isLine_spanUnlessEmpty _ _ _

theorem headerNav_writes (ctx : DocumentContext) (n : Node) :
    Writes (headerNavSteps ctx n) ⟨headerNav ctx n, []⟩ := by
  have hlinks (links : List Json) :
      ∀ x ∈ (links.filter fun l => l.members?.isSome).map (headerLink ctx), x.IsLine :=
    isLine_map (fun _ => ⟨_, rfl⟩) _
  unfold headerNavSteps headerNav
  cases n.propItems "links" with
  | nil => exact .nothing
  | cons link rest => exact .inside_block (.lines (hlinks (link :: rest)))

end Templates

section Elements

/-- Steps write what is rendered, and are refused for the same reason. -/
inductive Emits : Except CompileError (List WriterStep) → Except CompileError Fragment → Prop where
  | written {steps : List WriterStep} {f : Fragment} (h : Writes steps f) : Emits (.ok steps) (.ok f)
  | refused (e : CompileError) : Emits (.error e) (.error e)

theorem Emits.bind {x : Except CompileError (List WriterStep)} {y : Except CompileError Fragment}
    {next : List WriterStep → Except CompileError (List WriterStep)}
    {rest : Fragment → Except CompileError Fragment} (h : Emits x y)
    (hnext : ∀ steps f, Writes steps f → Emits (next steps) (rest f)) :
    Emits (x >>= next) (y >>= rest) := by
  cases h with
  | written h => exact hnext _ _ h
  | refused e => exact .refused e

/-- Where steps are given, what is rendered is what they write. -/
theorem Emits.of_ok {steps : List WriterStep} {y : Except CompileError Fragment}
    (h : Emits (.ok steps) y) : ∃ f, y = .ok f ∧ Writes steps f := by
  cases h with
  | written h => exact ⟨_, rfl, h⟩

/-- A forest in a block, behind some markup of the block's own. -/
theorem Emits.in_block {x : Except CompileError (List WriterStep)}
    {y : Except CompileError Fragment} (h : Emits x y) (tag : String) (attrs : List Attr)
    {own : List WriterStep} {before : List Html} (hown : Writes own ⟨before, []⟩) :
    Emits (do
      let inner ← x
      return opens tag attrs ++ (own ++ inner) ++ closes tag) (do
      let inner ← y
      return inner.inBlock tag attrs before) :=
  h.bind fun _ _ hf => .written ((hown.append hf).block tag attrs)

mutual

theorem Element.steps_emit (e : Element) (ctx : DocumentContext) (placement : Placement) :
    Emits (e.steps ctx placement) (e.render ctx placement) := by
  cases e with
  | mk n children =>
    have hforest (inner : Placement) := Forest.steps_emit children ctx inner
    have hleaf (tag : String) (attrs : List Attr) (content : List Inline) :
        Emits (.ok (linesOf (leafFragment n placement tag attrs content).markup))
          (.ok (leafFragment n placement tag attrs content)) :=
      .written (.lines (isLine_one _))
    rw [Element.steps, Element.render]
    -- one template for each type; containers put what their children write into a block
    cases n.type with
    | text => exact hleaf "p" [] _
    | heading => exact hleaf _ [] _
    | button => exact .written (buttonFragment_writes ctx n placement)
    | image => exact .written (.lines (isLine_one _))
    | video => exact hleaf "video" _ []
    | icon => exact hleaf "span" _ _
    | container => exact (hforest .absolute).in_block "div" _ .nothing
    | sectionBox => exact (hforest .absolute).in_block "section" _ .nothing
    | grid => exact (hforest .flow).in_block "div" _ .nothing
    | columns => exact (hforest .flow).in_block "div" _ .nothing
    | card => exact (hforest .absolute).in_block "div" _ (cardParts_writes _ _ _ _)
    | header =>
      exact (hforest .absolute).in_block "header" _
        (.below (.lines (headerLogo_lines n)) (headerNav_writes ctx n))
    | rectangle => exact hleaf "div" [] []
    | circle => exact hleaf "div" [] []
    | triangle => exact hleaf "div" [] []
    | divider => exact hleaf "div" [] []
    | spacer => exact hleaf "div" _ []
    | carousel => exact .written (carouselFragment_writes n placement)
    | cardsCarousel => exact .written (cardsCarouselFragment_writes ctx n placement)
    | catalogSection =>
      cases ctx.options.catalog with
      | some catalog => exact .written (catalogFragment_writes catalog n placement)
      | none => exact .refused _
    | contactForm => exact .written (formFragment_writes n placement)
    | newsletterForm => exact .written (formFragment_writes n placement)
    | searchForm => exact .written (formFragment_writes n placement)

theorem Forest.steps_emit (forest : List Element) (ctx : DocumentContext) (placement : Placement) :
    Emits (Forest.steps ctx placement forest) (Forest.render ctx placement forest) := by
  cases forest with
  | nil => exact .written .nothing
  | cons e rest =>
    refine (Element.steps_emit e ctx placement).bind fun first f hf => ?_
    exact (Forest.steps_emit rest ctx placement).bind fun others g hg => .written (hf.append hg)

end

end Elements

end PageBuilder
