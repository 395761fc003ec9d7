import PageBuilder.Html.Behavior.CardsCarousel
import PageBuilder.Html.Behavior.Carousel
import PageBuilder.Html.Behavior.Catalog
import PageBuilder.Html.Behavior.Form
import PageBuilder.Html.Behavior.Router
import PageBuilder.Html.Escape
import PageBuilder.Bytes

/-!
Scripts of an exported document. A behaviour is a fixed function body that reads all it needs from
its configuration; a script calls it with a configuration written as JSON, so no text of the
document becomes part of the code.
-/

namespace PageBuilder

/-- The behaviours that documents embed. -/
inductive Behavior where
  | router
  | carousel
  | cardsCarousel
  | catalog
  | form
deriving DecidableEq, Repr

namespace Behavior

def all : List Behavior := [.router, .carousel, .cardsCarousel, .catalog, .form]

/-- The name of a behaviour in documents. -/
def name : Behavior → String
  | .router => "router"
  | .carousel => "carousel"
  | .cardsCarousel => "cards-carousel"
  | .catalog => "catalog"
  | .form => "form"

def source : Behavior → List String
  | .router => routerSource
  | .carousel => carouselSource
  | .cardsCarousel => cardsCarouselSource
  | .catalog => catalogSource
  | .form => formSource

end Behavior

/-- Lines, each with a line feed at its end. -/
def endedLines : List String → String
  | [] => ""
  | line :: rest => line ++ "\n" ++ endedLines rest

/-- A behaviour with the configuration of one widget. -/
structure ScriptBlock where
  behavior : Behavior
  config : Json

/-- The text of a script, without its tags. -/
def ScriptBlock.text (b : ScriptBlock) : String :=
  "(function (config) \x7b\n" ++ endedLines b.behavior.source ++ "\x7d)(" ++ scriptJson b.config ++
    ");"

/-- A script with the given configuration fields. -/
def ScriptBlock.ofFields (behavior : Behavior) (fields : List (String × Json)) : ScriptBlock :=
  ⟨behavior, .ofMap (.ofList fields)⟩

/-- The name of one widget in the document, from the id of its element. -/
def instanceId (kind elementId : String) : String := kind ++ "-" ++ checksum elementId

end PageBuilder
