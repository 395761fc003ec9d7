import PageBuilder.Html.Context

/-!
Widgets: carousels, the catalog and forms, each with the script that drives it. Cards are shared by
card elements and by the carousel of cards.
-/

namespace PageBuilder

/-- The image, the title and the text of a card. -/
def cardParts (image alt title content : String) : List Html :=
  htmlIf (!image.isEmpty)
    [.line (.span "div" [attr "class" "pc-card-image"]
      [.void "img" [attr "src" (safeUrl image), attr "alt" alt, attr "loading" "lazy"] true])] ++
  [divBlock "pc-card-body" (spanUnlessEmpty "h3" [attr "class" "pc-card-title"] title ++
    spanUnlessEmpty "p" [attr "class" "pc-card-content"] content)]

def arrows (kind : String) : List Html :=
  let arrow (direction label entity : String) : Html :=
    .line (.span "button" [attr "class" ("pc-" ++ kind ++ "-arrow pc-" ++ kind ++ "-" ++ direction),
      attr "type" "button", attr "aria-label" label] [.entity entity])
  [arrow "prev" "Previous" "#8249", arrow "next" "Next" "#8250"]

/-- The class of the slide or dot that is shown first. -/
def activeClass (cls : String) (index : Nat) : String :=
  if index = 0 then cls ++ " is-active" else cls

def slideHtml (index : Nat) (slide : Json) : Html :=
  let image := itemText slide ["image", "src", "url"]
  let title := itemText slide ["title"]
  let description := itemText slide ["description", "subtitle", "text"]
  .block "div" [attr "class" (activeClass "pc-carousel-slide" index),
      attr "data-index" (toString index)]
    (htmlIf (!image.isEmpty) [.line (.void "img"
      [attr "src" (safeUrl image), attr "alt" (itemText slide ["alt", "title"])] true)] ++
    htmlIf (!title.isEmpty || !description.isEmpty)
      [divBlock "pc-carousel-caption"
        (spanUnlessEmpty "h3" [] title ++ spanUnlessEmpty "p" [] description)])

def dotHtml (index : Nat) : Html :=
  .line (.span "button" [attr "class" (activeClass "pc-carousel-dot" index),
    attr "type" "button", attr "data-index" (toString index),
    attr "aria-label" ("Slide " ++ toString (index + 1))] [])

def carouselFragment (n : Node) (placement : Placement) : Fragment :=
  let root := instanceId "carousel" n.id
  let slides := n.propItems "slides"
  let several := 1 < slides.length
  ⟨[.block "div" (boxAttrs n placement [] [attr "data-carousel" root])
    ([divBlock "pc-carousel-track" (slides.mapIdx slideHtml)] ++
      htmlIf ((n.propBool? "showArrows").getD true && several) (arrows "carousel") ++
      htmlIf ((n.propBool? "showDots").getD true && several)
        [divBlock "pc-carousel-dots" ((List.range slides.length).map dotHtml)])],
  [.ofFields .carousel [("root", .str root), ("count", .nat slides.length),
    ("autoplay", .bool ((n.propBool? "autoplay").getD true)),
    ("interval", .nat (intervalOf ((n.propNumber? "interval").getD 5000.0)))]]⟩

/-- The button of a card, if the card has a label for it. -/
def cardButton (ctx : DocumentContext) (card : Json) : List Html :=
  let label := itemText card ["buttonText"]
  let attrs := match LinkTarget.ofMembers card.get? with
    | .toSection id => sectionLinkAttrs ctx id
    | .toUrl url => [attr "onclick" (scriptCall "window.open" (safeUrl url))]
    | .nowhere => []
  spanUnlessEmpty "button" ([attr "class" "pc-button", attr "type" "button"] ++ attrs) label

def cardItem (ctx : DocumentContext) (card : Json) : Html :=
  divBlock "pc-cards-item" [divBlock "pc-card"
    (cardParts (itemText card ["image", "src"]) (itemText card ["alt", "title"])
      (itemText card ["title"]) (itemText card ["description", "content", "text"]) ++
      cardButton ctx card)]

def cardsCarouselFragment (ctx : DocumentContext) (n : Node) (placement : Placement) : Fragment :=
  let root := instanceId "cards" n.id
  let cards := n.propItems "cards"
  let visible := wholeBetween 1.0 6.0 ((n.propNumber? "visibleCards").getD 3.0)
  ⟨[.block "div" (boxAttrs n placement [] [attr "data-cards-carousel" root])
    (divBlock "pc-cards-viewport" [divBlock "pc-cards-track" (cards.map (cardItem ctx))] ::
      htmlIf (visible < cards.length) (arrows "cards"))],
  [.ofFields .cardsCarousel [("root", .str root), ("count", .nat cards.length),
    ("visible", .nat visible), ("autoplay", .bool ((n.propBool? "autoplay").getD false)),
    ("interval", .nat (intervalOf ((n.propNumber? "interval").getD 4000.0)))]]⟩

def catalogSearch (placeholder : String) : Html :=
  .line (.span "form" [attr "class" "pc-catalog-search", attr "role" "search"]
    [.void "input" [attr "type" "search", attr "name" "q", attr "placeholder" placeholder] true,
      .span "button" [attr "type" "submit"] [.text "Search"]])

def catalogModal : Html :=
  .block "div" [attr "class" "pc-modal", flag "hidden"]
    [.block "div" [attr "class" "pc-modal-dialog", attr "role" "dialog", attr "aria-modal" "true"]
      [.line (.span "button" [attr "class" "pc-modal-close", attr "type" "button",
        attr "aria-label" "Close"] [.entity "times"]),
      textSpan "div" [attr "class" "pc-modal-body"] ""]]

/-- The branch that a catalog shows, as a text or a number. -/
def branchId (n : Node) : Json :=
  match n.props.get? "branchId" with
  | some (.str s) => if s.isEmpty then .null else .str s
  | some (.num x) => .str (String.ofList x.chars)
  | _ => .null

/-- A product catalog, fetched from the remote catalog of the options. -/
def catalogFragment (catalog : CatalogOptions) (n : Node) (placement : Placement) : Fragment :=
  let root := instanceId "catalog" n.id
  ⟨[.block "div" (boxAttrs n placement [] [attr "data-catalog" root])
    ([divBlock "pc-catalog-header" (spanUnlessEmpty "h2" [] (n.text ["title"]) ++
      htmlIf ((n.propBool? "showSearch").getD true)
        [catalogSearch (n.textOr ["searchPlaceholder"] "Search by name or code")])] ++
    (["breadcrumb", "families", "collections", "grid", "pagination"].map fun part =>
      textSpan "div" [attr "class" ("pc-catalog-" ++ part)] "") ++
    [textSpan "div" [attr "class" "pc-catalog-status", attr "aria-live" "polite"] "",
      catalogModal])],
  [.ofFields .catalog [("root", .str root),
    ("apiBase", .str (withoutEnd '/' catalog.apiBaseUrl)),
    ("identity", .str catalog.identity), ("identityParam", .str catalog.identityParam),
    ("branchId", branchId n),
    ("pageSize", .nat (wholeBetween 1.0 100.0 ((n.propNumber? "pageSize").getD 12.0))),
    ("currency", .str catalog.currency), ("rootLabel", .str (n.textOr ["rootLabel"] "All")),
    ("loadingText", .str (n.textOr ["loadingText"] "Loading…")),
    ("emptyText", .str (n.textOr ["emptyText"] "No products found")),
    ("stockLabel", .str (n.textOr ["stockLabel"] "Stock"))]]⟩

/-- The type of an input field; unknown ones are plain text. -/
def inputType (kind : String) : String :=
  if ["email", "tel", "number", "url", "date"].contains kind then kind else "text"

/-- A field of a contact form. -/
structure FormField where
  name : String
  label : String
  kind : String
  placeholder : String
  required : Bool

/-- The fields of a contact form that describes none. -/
def usualFormFields : List FormField :=
  [⟨"name", "Name", "text", "", true⟩, ⟨"email", "Email", "email", "", true⟩,
    ⟨"message", "Message", "textarea", "", true⟩]

/-- The field that a JSON object describes. A field without a name is left out. -/
def FormField.ofJson? (j : Json) : Option FormField :=
  let name := itemText j ["name"]
  if name.isEmpty then none
  else
    some ⟨name, orElseText (itemText j ["label"]) name, itemText j ["type"],
      itemText j ["placeholder"], ((j.get? "required").bind Json.bool?).getD false⟩

def FormField.html (f : FormField) : Html :=
  let common := [attr "name" f.name, attr "placeholder" f.placeholder] ++
    (if f.required then [flag "required"] else [])
  let control := if f.kind = "textarea" then Inline.span "textarea" common []
    else .void "input" (attr "type" (inputType f.kind) :: common) true
  .line (.span "label" [] [.text f.label, control])

def formFields (n : Node) : List FormField :=
  match n.propItems "fields" with
  | [] => usualFormFields
  | items => items.filterMap FormField.ofJson?

def submitButton (label : String) : Html := textSpan "button" [attr "type" "submit"] label

def formControls (n : Node) : List Html :=
  match n.type with
  | .contactForm =>
    (formFields n).map FormField.html ++ [submitButton (n.textOr ["submitText"] "Send")]
  | .newsletterForm =>
    [divBlock "pc-form-row"
      [.line (.void "input" [attr "type" "email", attr "name" "email",
        attr "placeholder" (n.textOr ["placeholder"] "you@example.com"), flag "required"] true),
      submitButton (n.textOr ["buttonText"] "Subscribe")]]
  | _ =>
    [.line (.void "input" [attr "type" "search", attr "name" "q",
      attr "placeholder" (n.textOr ["placeholder"] "Search…")] true),
      submitButton (n.textOr ["buttonText"] "Search")]

/-- The kind of a form in its script. -/
def formKind : ElementType → String
  | .contactForm => "contact"
  | .newsletterForm => "newsletter"
  | _ => "search"

/-- The address that a form is sent to, if it is a usable one. -/
def formAction (n : Node) : Option String :=
  ((n.propText? "action").map safeUrl).filter fun url => !url.isEmpty && url != "#"

def formFragment (n : Node) (placement : Placement) : Fragment :=
  let kind := formKind n.type
  let root := instanceId kind n.id
  let search := kind == "search"
  ⟨[.block "form" (boxAttrs n placement []
      ([attr "data-form" root, flag "novalidate"] ++
        (if search then [attr "role" "search"] else [])))
    (spanUnlessEmpty "h3" [] (n.text ["title"]) ++
      spanUnlessEmpty "p" [] (n.text ["description"]) ++ formControls n ++
      htmlIf (!search)
        [textSpan "div" [attr "class" "pc-form-status", attr "aria-live" "polite"] ""])],
  [.ofFields .form [("root", .str root), ("kind", .str kind),
    ("action", .option .str (formAction n)),
    ("successMessage", .str (n.textOr ["successMessage"] "Thanks! We'll be in touch.")),
    ("errorMessage", .str (n.textOr ["errorMessage"] "Something went wrong. Please try again.")),
    ("requiredMessage",
      .str (n.textOr ["requiredMessage"] "Please fill in all required fields."))]]⟩

end PageBuilder
