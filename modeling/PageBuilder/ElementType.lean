import PageBuilder.Dimension

/-!
The closed vocabulary of element types, their names in documents, and what is known of each: whether
children are laid out inside it, whether exported documents ship a script for it, and the size it
starts with.
-/

namespace PageBuilder

/-- The type of an element. -/
inductive ElementType where
  | text
  | heading
  | button
  | image
  | video
  | icon
  | container
  | sectionBox
  | grid
  | columns
  | card
  | header
  | rectangle
  | circle
  | triangle
  | divider
  | spacer
  | carousel
  | cardsCarousel
  | catalogSection
  | contactForm
  | newsletterForm
  | searchForm
deriving DecidableEq, Repr

namespace ElementType

/-- Every type, in the order of the vocabulary. -/
def all : List ElementType :=
  [.text, .heading, .button, .image, .video, .icon, .container, .sectionBox, .grid, .columns,
    .card, .header, .rectangle, .circle, .triangle, .divider, .spacer, .carousel, .cardsCarousel,
    .catalogSection, .contactForm, .newsletterForm, .searchForm]

/-- The name of a type in documents. -/
def name : ElementType → String
  | .text => "text"
  | .heading => "heading"
  | .button => "button"
  | .image => "image"
  | .video => "video"
  | .icon => "icon"
  | .container => "container"
  | .sectionBox => "section"
  | .grid => "grid"
  | .columns => "columns"
  | .card => "card"
  | .header => "header"
  | .rectangle => "rectangle"
  | .circle => "circle"
  | .triangle => "triangle"
  | .divider => "divider"
  | .spacer => "spacer"
  | .carousel => "carousel"
  | .cardsCarousel => "cardsCarousel"
  | .catalogSection => "catalog-section"
  | .contactForm => "contact-form"
  | .newsletterForm => "newsletter-form"
  | .searchForm => "search-form"

def ofName (s : String) : Except Malformed ElementType :=
  match all.find? fun t => t.name == s with
  | some t => .ok t
  | none => .error (.elementType s)

def toJson (t : ElementType) : Json := .str t.name

def ofJson? (j : Json) : Option ElementType := j.name?.bind fun s => (ofName s).toOption

/-- The type that JSON in a payload names. -/
def ofPayloadJson? (j : Json) : Option ElementType := j.looseName?.bind fun s => (ofName s).toOption

/-- Types whose children are laid out inside them. -/
def isContainer : ElementType → Bool
  | .container | .sectionBox | .grid | .columns | .card | .header => true
  | _ => false

/-- Types that ship a script in exported documents. -/
def isInteractive : ElementType → Bool
  | .carousel | .cardsCarousel | .catalogSection | .contactForm |
    .newsletterForm | .searchForm => true
  | _ => false

/-- The size that a new element of a type starts with. -/
def defaultSize : ElementType → Size
  | .text => ⟨.px 300.0, .auto⟩
  | .heading => ⟨.px 400.0, .auto⟩
  | .button => ⟨.px 160.0, .px 48.0⟩
  | .image => ⟨.px 300.0, .px 200.0⟩
  | .video => ⟨.px 480.0, .px 270.0⟩
  | .icon => ⟨.px 48.0, .px 48.0⟩
  | .container => ⟨.px 600.0, .px 300.0⟩
  | .sectionBox => ⟨.px 1450.0, .px 500.0⟩
  | .grid => ⟨.px 1200.0, .px 400.0⟩
  | .columns => ⟨.px 1200.0, .px 400.0⟩
  | .card => ⟨.px 320.0, .px 400.0⟩
  | .header => ⟨.px 1450.0, .px 80.0⟩
  | .rectangle => ⟨.px 200.0, .px 120.0⟩
  | .circle => ⟨.px 150.0, .px 150.0⟩
  | .triangle => ⟨.px 150.0, .px 150.0⟩
  | .divider => ⟨.px 600.0, .px 2.0⟩
  | .spacer => ⟨.px 100.0, .px 50.0⟩
  | .carousel => ⟨.px 1200.0, .px 500.0⟩
  | .cardsCarousel => ⟨.px 1200.0, .px 450.0⟩
  | .catalogSection => ⟨.px 1400.0, .px 900.0⟩
  | .contactForm => ⟨.px 500.0, .px 520.0⟩
  | .newsletterForm => ⟨.px 600.0, .px 160.0⟩
  | .searchForm => ⟨.px 500.0, .px 64.0⟩

end ElementType

end PageBuilder
