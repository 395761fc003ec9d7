import PageBuilder.Decimal.Shortest
import PageBuilder.Json.Basic
import PageBuilder.Html.Escape
import PageBuilder.Text.Cut

/-!
Inline styles: ordered lists of declarations, and the declarations that an element's style map
yields.
-/

namespace PageBuilder

/-- An ASCII capital as a dash and its small letter. -/
def kebabChar (c : Char) : List Char := if c.isUpper then ['-', c.toLower] else [c]

/-- A property name with dashes in place of its capitals. -/
def camelToKebab (name : String) : String := String.ofList (name.toList.flatMap kebabChar)

/-- Properties whose numbers carry no unit. -/
def unitlessProperties : List String :=
  ["opacity", "z-index", "font-weight", "line-height", "flex", "flex-grow", "flex-shrink", "order",
    "zoom", "aspect-ratio"]

/-- The text of a style value: a trimmed text that is not blank, or a number with its unit. -/
def styleText? (property : String) : Json → Option String
  | .str s => if (trim s).isEmpty then none else some (trim s)
  | .num n =>
    some (if unitlessProperties.contains property then plainNumber n.toFloat
      else formatPx n.toFloat)
  | _ => none

/-- The declaration of one style entry. A value with a semicolon would bring further declarations
along and yields none. -/
def styleDeclaration? (key : String) (value : Json) : Option (String × String) :=
  let property := camelToKebab key
  ((styleText? property value).filter fun v => !v.toList.contains ';').map fun v => (property, v)

/-- Declarations in order: properties and their values. -/
abbrev Declarations := List (String × String)

namespace Declarations

/-- The declarations of a style map, in the order of its keys. -/
def ofStyles (styles : SortedMap Json) : Declarations :=
  styles.entries.filterMap fun e => styleDeclaration? e.1 e.2

def line (d : String × String) : String := d.1 ++ ": " ++ d.2 ++ ";"

def css : Declarations → String
  | [] => ""
  | [d] => line d
  | d :: rest => line d ++ " " ++ css rest

/-- The style attribute with a blank in front, or nothing for no declarations. -/
def styleAttribute (ds : Declarations) : String :=
  if ds.isEmpty then "" else " style=\"" ++ escapeHtml ds.css ++ "\""

end Declarations

end PageBuilder
