import PageBuilder.Html.Widget

/-!
Rendering of elements. Containers render their children; every other element is rendered from its
own data alone. Rendering fails only for a catalog without catalog options.
-/

namespace PageBuilder

/-- A paragraph, a heading, a picture or another element without parts. -/
def leafFragment (n : Node) (placement : Placement) (tag : String) (attrs : List Attr)
    (content : List Inline) : Fragment :=
  .ofHtml (.line (.span tag (boxAttrs n placement [] attrs) content))

def headingLevel (n : Node) : Nat := wholeBetween 1.0 6.0 ((n.propNumber? "level").getD 2.0)

/-- A button, or a link in its place when it leads to an address. -/
def buttonFragment (ctx : DocumentContext) (n : Node) (placement : Placement) : Fragment :=
  let label := [Inline.text (n.textOr ["text", "content", "label"] "Button")]
  match LinkTarget.ofMembers n.props.get? with
  | .toSection id =>
    leafFragment n placement "button" (attr "type" "button" :: sectionLinkAttrs ctx id) label
  | .toUrl url =>
    leafFragment n placement "a" [attr "href" (safeUrl url), attr "target" "_blank",
      attr "rel" "noopener noreferrer"] label
  | .nowhere => leafFragment n placement "button" [attr "type" "button"] label

def imageFragment (n : Node) (placement : Placement) : Fragment :=
  .ofHtml (.line (.void "img" (boxAttrs n placement []
    [attr "src" (safeUrl (n.text ["src", "url"])), attr "alt" (n.text ["alt"]),
      attr "loading" "lazy"]) false))

def videoFragment (n : Node) (placement : Placement) : Fragment :=
  let poster := match n.propText? "poster" with
    | some url => [attr "poster" (safeUrl url)]
    | none => []
  leafFragment n placement "video" ([attr "src" (safeUrl (n.text ["src", "url"])), flag "controls",
    flag "playsinline"] ++ poster) []

/-- The declarations of a grid with a number of columns. -/
def gridStyle (n : Node) (usualColumns : Float) : Declarations :=
  let columns := wholeBetween 1.0 12.0 ((n.propNumber? "columns").getD usualColumns)
  let gap := (n.propNumber? "gap").getD 16.0
  [("display", "grid"),
    ("grid-template-columns", "repeat(" ++ toString columns ++ ", minmax(0, 1fr))"),
    ("gap", formatPx (if gap < 0.0 then 0.0 else gap))]

def cardElementParts (n : Node) : List Html :=
  cardParts (n.text ["image", "src"]) (n.text ["alt", "title"]) (n.text ["title"])
    (n.text ["content", "description", "text"])

/-- The logo of a header: an image, else a text, else nothing. -/
def headerLogo (n : Node) : List Html :=
  let image := n.text ["logoImage"]
  let title := n.text ["logo", "title"]
  if !image.isEmpty then
    [.line (.span "div" [attr "class" "pc-header-logo"]
      [.void "img" [attr "src" (safeUrl image), attr "alt" title] true])]
  else spanUnlessEmpty "div" [attr "class" "pc-header-logo"] title

def headerLink (ctx : DocumentContext) (link : Json) : Html :=
  let label := ((link.get? "label").bind Json.str?).getD ""
  let attrs := match LinkTarget.ofMembers link.get? with
    | .toSection id =>
      let target := match ctx.sections.get? id with
        | some s => "#" ++ s.slug
        | none => "#"
      attr "href" target :: sectionLinkAttrs ctx id
    | .toUrl url => [attr "href" (safeUrl url)]
    | .nowhere => [attr "href" "#"]
  textSpan "a" (attr "class" "pc-header-link" :: attrs) label

/-- The links of a header. Items that are no objects are passed over. -/
def headerNav (ctx : DocumentContext) (n : Node) : List Html :=
  match n.propItems "links" with
  | [] => []
  | links =>
    [.block "nav" [attr "class" "pc-header-nav"]
      ((links.filter fun l => l.members?.isSome).map (headerLink ctx))]

mutual

/-- The markup and the scripts of an element. -/
def Element.render (ctx : DocumentContext) (placement : Placement) :
    Element → Except CompileError Fragment
  | .mk n children =>
    let shape (attrs : List Attr) : Except CompileError Fragment :=
      .ok (leafFragment n placement "div" attrs [])
    match n.type with
    | .text =>
      .ok (leafFragment n placement "p" [] [.text (n.text ["content", "text"])])
    | .heading =>
      .ok (leafFragment n placement ("h" ++ toString (headingLevel n)) []
        [.text (n.text ["content", "text"])])
    | .button => .ok (buttonFragment ctx n placement)
    | .image => .ok (imageFragment n placement)
    | .video => .ok (videoFragment n placement)
    | .icon =>
      .ok (leafFragment n placement "span" [attr "aria-hidden" "true"]
        [.text (n.text ["icon", "content"])])
    | .container => do
      let inner ← Forest.render ctx .absolute children
      return inner.inBlock "div" (boxAttrs n placement [] []) []
    | .sectionBox => do
      let inner ← Forest.render ctx .absolute children
      return inner.inBlock "section" (boxAttrs n placement [] []) []
    | .grid => do
      let inner ← Forest.render ctx .flow children
      return inner.inBlock "div" (boxAttrs n placement (gridStyle n 3.0) []) []
    | .columns => do
      let inner ← Forest.render ctx .flow children
      return inner.inBlock "div" (boxAttrs n placement (gridStyle n 2.0) []) []
    | .card => do
      let inner ← Forest.render ctx .absolute children
      return inner.inBlock "div" (boxAttrs n placement [] []) (cardElementParts n)
    | .header => do
      let inner ← Forest.render ctx .absolute children
      return inner.inBlock "header" (boxAttrs n placement [] []) (headerLogo n ++ headerNav ctx n)
    | .rectangle | .circle | .triangle | .divider => shape []
    | .spacer => shape [attr "aria-hidden" "true"]
    | .carousel => .ok (carouselFragment n placement)
    | .cardsCarousel => .ok (cardsCarouselFragment ctx n placement)
    | .catalogSection =>
      match ctx.options.catalog with
      | some catalog => .ok (catalogFragment catalog n placement)
      | none => .error (.missingCatalogIdentity n.id)
    | .contactForm | .newsletterForm | .searchForm => .ok (formFragment n placement)

/-- The markup and the scripts of siblings, one after the other. -/
def Forest.render (ctx : DocumentContext) (placement : Placement) :
    List Element → Except CompileError Fragment
  | [] => .ok .empty
  | e :: rest => do
    let first ← e.render ctx placement
    let others ← Forest.render ctx placement rest
    return first.append others

end

end PageBuilder
