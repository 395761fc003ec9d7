import PageBuilder.Html.Render
import PageBuilder.Html.Stylesheet

/-!
Exported documents: one block for each section, of which only the home section is shown, the router
and the scripts of all widgets. A single section can be exported as well, without the document
around it.
-/

namespace PageBuilder

/-- The height of an element that counts for its section. -/
def countedHeight (n : Node) : Float :=
  match n.size.height with
  | .px h => h
  | .auto => n.type.defaultSize.height.px?.getD 0.0

/-- The lowest bottom edge among a section's top-level elements, but no less than 400. -/
def sectionHeight (s : Section) : Float :=
  s.elements.foldl
    (fun height e =>
      let edge := e.node.position.y + countedHeight e.node
      if height < edge then edge else height)
    400.0

def sectionStyle (ctx : DocumentContext) (visible : Bool) (s : Section) : Declarations :=
  [("display", if visible then "block" else "none"), ("position", "relative"),
    ("width", formatPx ctx.options.canvasWidth), ("min-height", formatPx (sectionHeight s)),
    ("margin", "0 auto")]

def sectionFragment (ctx : DocumentContext) (visible : Bool) (s : Section) :
    Except CompileError Fragment := do
  let inner ← Forest.render ctx .absolute s.elements
  return inner.inBlock "div" [attr "class" "pc-section", attr "id" ("section-" ++ s.slug),
    attr "data-section-id" s.id, attr "data-slug" s.slug,
    attr "style" (sectionStyle ctx visible s).css] []

/-- The blocks of sections in order. The ones with the home section's id are shown. -/
def sectionFragments (ctx : DocumentContext) (homeId : Option String) :
    List Section → Except CompileError Fragment
  | [] => .ok .empty
  | s :: rest => do
    let first ← sectionFragment ctx (homeId == some s.id) s
    let others ← sectionFragments ctx homeId rest
    return first.append others

/-- The script that shows sections by their slugs. -/
def routerScript (sections : Sections) : ScriptBlock :=
  .ofFields .router [("sections", .arr (sections.ordered.map fun s =>
      .obj [("id", .str s.id), ("slug", .str s.slug)])),
    ("home", .option .str (sections.home?.map Section.id))]

/-- The script elements of a list of scripts. -/
def scriptsHtml (scripts : List ScriptBlock) : List Html :=
  scripts.map fun b => .script b.behavior.name b.text

def headHtml (title : String) : Html :=
  .block "head" []
    [.line (.void "meta" [attr "charset" "UTF-8"] false),
      .line (.void "meta" [attr "name" "viewport",
        attr "content" "width=device-width, initial-scale=1.0"] false),
      textSpan "title" [] title, .style stylesheet]

/-- The line that a document starts with. -/
def doctype : String := "<!DOCTYPE html>"

def documentPieces (sections : Sections) (options : ExportOptions) :
    Except CompileError (List Piece) :=
  if sections.isEmpty then .error .noSections
  else do
    let ctx : DocumentContext := ⟨sections, options⟩
    let body ← sectionFragments ctx (sections.home?.map Section.id) sections.ordered
    -- the router comes first: the scripts after it may already navigate
    let scripts := routerScript sections :: body.scripts
    let html := Html.block "html" [attr "lang" options.lang]
      [headHtml options.title, .block "body" [] (body.markup ++ scriptsHtml scripts)]
    return .line 0 doctype :: html.pieces 0

/-- The pieces of one section, shown, with the scripts of its widgets. -/
def sectionPieces (s : Section) (sections : Sections) (options : ExportOptions) :
    Except CompileError (List Piece) := do
  let f ← sectionFragment ⟨sections, options⟩ true s
  return Html.allPieces 0 (f.markup ++ scriptsHtml f.scripts)

def ExportOptions.layout (o : ExportOptions) : LayoutStyle := ⟨o.pretty, o.indent⟩

def compileDocument (sections : Sections) (options : ExportOptions) :
    Except CompileError String :=
  (documentPieces sections options).map (writePieces options.layout)

/-- One section with the scripts of its widgets, without the document around it. -/
def compileSection (s : Section) (sections : Sections) (options : ExportOptions) :
    Except CompileError String :=
  (sectionPieces s sections options).map (writePieces options.layout)

/-- The name of the file that a document is previewed in. -/
def previewFileName (html : String) : String := "pagesmith-preview-" ++ checksum html ++ ".html"

end PageBuilder
