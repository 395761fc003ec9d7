import PageBuilder.Html.Box
import PageBuilder.Html.Escape
import PageBuilder.Html.Options
import PageBuilder.Html.Script
import PageBuilder.Section

/-!
What rendering an element needs to know of its document, and what it yields: markup and scripts.
-/

namespace PageBuilder

/-- Why a document cannot be exported. -/
inductive CompileError where
  | noSections
  | missingCatalogIdentity (elementId : String)
deriving DecidableEq, Repr

def CompileError.message : CompileError → String
  | .noSections => "Nothing to compile: the document has no sections"
  | .missingCatalogIdentity id =>
    "Catalog section " ++ id ++ " needs a catalog identity in the export options"

/-- The sections of a document and its options. -/
structure DocumentContext where
  sections : Sections
  options : ExportOptions

/-- Markup and the scripts that belong to it, both in document order. -/
structure Fragment where
  markup : List Html
  scripts : List ScriptBlock

def Fragment.empty : Fragment := ⟨[], []⟩

def Fragment.append (a b : Fragment) : Fragment := ⟨a.markup ++ b.markup, a.scripts ++ b.scripts⟩

/-- A fragment inside a block, after some markup of the block's own. -/
def Fragment.inBlock (tag : String) (attrs : List Attr) (before : List Html) (f : Fragment) :
    Fragment :=
  ⟨[.block tag attrs (before ++ f.markup)], f.scripts⟩

def Fragment.ofHtml (h : Html) : Fragment := ⟨[h], []⟩

/-- The attributes of a control that opens a section, or of one whose section is gone. -/
def sectionLinkAttrs (ctx : DocumentContext) (sectionId : String) : List Attr :=
  match ctx.sections.get? sectionId with
  | some s =>
    [attr "data-href" ("#" ++ s.slug), attr "onclick" (scriptCall "navigateToSection" s.id)]
  | none => [attr "data-href" "#"]

namespace Node

/-- The first nonempty text among some props, or the empty text. -/
def text (n : Node) (keys : List String) : String := firstText n.props.get? keys

/-- A prop's text, or `default` when it has none. -/
def textOr (n : Node) (keys : List String) (default : String) : String :=
  orElseText (n.text keys) default

end Node

/-- The first nonempty text among some fields of a JSON object. -/
def itemText (j : Json) (keys : List String) : String := firstText j.get? keys

/-- A number cut off at both ends of a range and then of its fraction. -/
def wholeBetween (low high x : Float) : Nat :=
  let x := if x < low then low else if high < x then high else x
  (Binary.ofFloat x).truncate.toNat

/-- Milliseconds between two steps of a widget: at least a second, and at most what 64 bits hold. -/
def intervalOf (x : Float) : Nat :=
  let x := if x < 1000.0 then 1000.0 else x
  min (Binary.ofFloat x).truncate.toNat (wordLimit - 1)

/-- A list of markup, when the condition holds. -/
def htmlIf (c : Bool) (h : List Html) : List Html := if c then h else []

/-- One span with a text, unless the text is empty. -/
def spanUnlessEmpty (tag : String) (attrs : List Attr) (s : String) : List Html :=
  htmlIf (!s.isEmpty) [textSpan tag attrs s]

end PageBuilder
