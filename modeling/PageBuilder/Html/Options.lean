import PageBuilder.Json.Fields

/-!
Options of an exported document.
-/

namespace PageBuilder

/-- The remote catalog that catalog widgets ask, and who asks. -/
structure CatalogOptions where
  apiBaseUrl : String
  identity : String
  identityParam : String := "companyId"
  currency : String := "$"
deriving DecidableEq

namespace CatalogOptions

def toJson (c : CatalogOptions) : Json :=
  .obj [("apiBaseUrl", .str c.apiBaseUrl), ("identity", .str c.identity),
    ("identityParam", .str c.identityParam), ("currency", .str c.currency)]

/-- The catalog options that a JSON record describes. -/
def ofJson? (j : Json) : Option CatalogOptions := do
  let f ← j.fields? ["apiBaseUrl", "identity", "identityParam", "currency"]
  return {
    apiBaseUrl := ← f.required "apiBaseUrl" Json.str?
    identity := ← f.required "identity" Json.str?
    identityParam := ← f.defaulted "identityParam" "companyId" Json.str?
    currency := ← f.defaulted "currency" "$" Json.str? }

end CatalogOptions

/-- Options of an exported document. -/
structure ExportOptions where
  title : String := "My Site"
  lang : String := "en"
  /-- The width of every section. -/
  canvasWidth : Float := 1450.0
  /-- Lines are broken and indented. -/
  pretty : Bool := true
  indent : String := "  "
  catalog : Option CatalogOptions := none

namespace ExportOptions

/-- Options as JSON; an absent catalog is left out. -/
def toJson (o : ExportOptions) : Json :=
  .obj ([("title", .str o.title), ("lang", .str o.lang), ("canvasWidth", .ofFloat o.canvasWidth),
    ("pretty", .bool o.pretty), ("indent", .str o.indent)] ++
    (match o.catalog with
    | some c => [("catalog", c.toJson)]
    | none => []))

/-- The options that a JSON record describes; what is missing has its usual value. -/
def ofJson? (j : Json) : Option ExportOptions := do
  let usual : ExportOptions := {}
  let f ← j.fields? ["title", "lang", "canvasWidth", "pretty", "indent", "catalog"]
  return {
    title := ← f.defaulted "title" usual.title Json.str?
    lang := ← f.defaulted "lang" usual.lang Json.str?
    canvasWidth := ← f.defaulted "canvasWidth" usual.canvasWidth Json.float?
    pretty := ← f.defaulted "pretty" usual.pretty Json.bool?
    indent := ← f.defaulted "indent" usual.indent Json.str?
    catalog := ← f.optionalEnd "catalog" CatalogOptions.ofJson? }

end ExportOptions

end PageBuilder
