import PageBuilder.Editor.Config
import PageBuilder.Html.Options
import PageBuilder.Json.Reader
import PageBuilder.Store.Config

/-!
The settings of a directory with projects: where things are, and how they are edited, stored and
exported.
-/

namespace PageBuilder

def configFileName : String := "pagesmith.config.json"

/-- Where the store is, and its limits. -/
structure StoreSettings where
  dir : String := ".pagesmith/store"
  limits : StoreConfig := {}
deriving DecidableEq, Repr

namespace StoreSettings

/-- Settings as JSON, the limits beside the directory. -/
def toJson (s : StoreSettings) : Json := .obj (("dir", .str s.dir) :: s.limits.toMembers)

/-- The settings that a JSON object describes; what is missing has its usual value. -/
def ofJson? : Json → Option StoreSettings
  | .obj members => do
    let usual : StoreSettings := {}
    let f ← Json.namedFields? ("dir" :: StoreConfig.fieldNames) members
    return {
      dir := ← f.defaulted "dir" usual.dir Json.str?
      limits := ← StoreConfig.ofFields? f }
  | _ => none

end StoreSettings

/-- How documents are exported. -/
structure ExportSettings where
  /-- The title of documents; the project's name when absent. -/
  title : Option String := none
  lang : Option String := none
  /-- The remote catalog. It is used only together with an identity. -/
  apiBaseUrl : Option String := none
  identity : Option String := none
  identityParam : Option String := none
  currency : Option String := none
deriving DecidableEq, Repr

namespace ExportSettings

/-- A member for a value that is there. -/
def member? (name : String) (value : Option String) : List (String × Json) :=
  match value with
  | some s => [(name, .str s)]
  | none => []

/-- Settings as JSON; what is absent is left out. -/
def toJson (s : ExportSettings) : Json :=
  .obj (member? "title" s.title ++ member? "lang" s.lang ++ member? "apiBaseUrl" s.apiBaseUrl ++
    member? "identity" s.identity ++ member? "identityParam" s.identityParam ++
    member? "currency" s.currency)

/-- The names of the settings, in order. -/
def fieldNames : List String :=
  ["title", "lang", "apiBaseUrl", "identity", "identityParam", "currency"]

/-- The settings that a JSON record describes. -/
def ofJson? (j : Json) : Option ExportSettings := do
  let f ← j.fields? fieldNames
  return {
    title := ← f.optional "title" Json.str?
    lang := ← f.optional "lang" Json.str?
    apiBaseUrl := ← f.optional "apiBaseUrl" Json.str?
    identity := ← f.optional "identity" Json.str?
    identityParam := ← f.optional "identityParam" Json.str?
    currency := ← f.optional "currency" Json.str? }

/-- The remote catalog, if both the catalog and the identity are set. -/
def catalog? (s : ExportSettings) : Option CatalogOptions :=
  match s.apiBaseUrl, s.identity with
  | some apiBaseUrl, some identity =>
    let usual : CatalogOptions := { apiBaseUrl, identity }
    some { usual with
      identityParam := s.identityParam.getD usual.identityParam
      currency := s.currency.getD usual.currency }
  | _, _ => none

def options (s : ExportSettings) (projectName : String) : ExportOptions :=
  let usual : ExportOptions := {}
  { usual with
    title := s.title.getD projectName
    lang := s.lang.getD usual.lang
    catalog := s.catalog? }

end ExportSettings

/-- The settings of a directory with projects. -/
structure SiteConfig where
  /-- The directory of project files. -/
  srcDir : String := "pages"
  /-- The directory of exported documents. -/
  outDir : String := "dist"
  editor : EditorConfig := {}
  store : StoreSettings := {}
  export_ : ExportSettings := {}

namespace SiteConfig

def toJson (c : SiteConfig) : Json :=
  .obj [("srcDir", .str c.srcDir), ("outDir", .str c.outDir), ("editor", c.editor.toJson),
    ("store", c.store.toJson), ("export", c.export_.toJson)]

/-- The names of the settings, in order. -/
def fieldNames : List String := ["srcDir", "outDir", "editor", "store", "export"]

/-- The parts of the settings' record that count. Those of the store lie beside its directory, so
that all of them are looked at. -/
def outline : Json.Outline :=
  .fields fieldNames [("editor", .fields EditorConfig.fieldNames []),
    ("export", .fields ExportSettings.fieldNames [])]

/-- The settings that a JSON record describes; what is missing has its usual value. -/
def ofJson? (j : Json) : Option SiteConfig := do
  let usual : SiteConfig := {}
  let f ← j.fields? fieldNames
  return {
    srcDir := ← f.defaulted "srcDir" usual.srcDir Json.str?
    outDir := ← f.defaulted "outDir" usual.outDir Json.str?
    editor := ← f.defaulted "editor" usual.editor EditorConfig.ofJson?
    store := ← f.defaulted "store" usual.store StoreSettings.ofJson?
    export_ := ← f.defaulted "export" usual.export_ ExportSettings.ofJson? }

/-- The settings that the text of a settings file describes. -/
def ofText? (s : String) : Option SiteConfig := (Json.readOutlined? outline s).bind ofJson?

end SiteConfig

end PageBuilder
