import PageBuilder.Json.Printer
import PageBuilder.Text.Cut

/-!
Texts inside markup and scripts, and the targets of links. The five characters that markup gives a
meaning are written as entities. In the JSON of a script the characters that could end the script
element or start a comment in it only ever occur inside string literals, where a numeric escape
means the same.
-/

namespace PageBuilder

/-- The entity of a character that markup gives a meaning, or the character itself. -/
def htmlChar (c : Char) : List Char :=
  if c = '&' then "&amp;".toList
  else if c = '<' then "&lt;".toList
  else if c = '>' then "&gt;".toList
  else if c = '"' then "&quot;".toList
  else if c = '\'' then "&#39;".toList
  else [c]

/-- A text for element content and for quoted attribute values. -/
def escapeHtml (s : String) : String := String.ofList (s.toList.flatMap htmlChar)

/-- A character of JSON text, escaped where a script element or an old parser would trip over it. -/
def scriptChar (c : Char) : List Char :=
  if c = '<' then "\\u003c".toList
  else if c = '>' then "\\u003e".toList
  else if c = '&' then "\\u0026".toList
  else if c.toNat = 0x2028 then "\\u2028".toList
  else if c.toNat = 0x2029 then "\\u2029".toList
  else [c]

/-- A value as JSON that may stand inside a script element. -/
def scriptJson (j : Json) : String := String.ofList (j.chars.flatMap scriptChar)

/-- A call with one text as its argument. -/
def scriptCall (function argument : String) : String :=
  function ++ "(" ++ scriptJson (.str argument) ++ ")"

/-- The starts of addresses that run a script. -/
def scriptSchemes : List String := ["javascript:", "vbscript:", "data:text/html"]

/-- An address, or `#` in place of one that would run a script. White space before the address and
the case of its letters do not count. -/
def safeUrl (url : String) : String :=
  let plain := (trimStartChars url.toList).map Char.toLower
  if scriptSchemes.any fun scheme => scheme.toList.isPrefixOf plain then "#" else url

/-- Where a control leads. -/
inductive LinkTarget where
  | toSection (id : String)
  | toUrl (url : String)
  | nowhere

/-- The target that an object's fields describe. Empty texts count as missing. -/
def LinkTarget.ofMembers (get? : String → Option Json) : LinkTarget :=
  let text? (key : String) : Option String :=
    ((get? key).bind Json.str?).filter fun s => !s.isEmpty
  match text? "sectionId", (text? "url").or (text? "link") with
  | some id, _ => .toSection id
  | none, some url => .toUrl url
  | none, none => .nowhere

/-- The first nonempty text among some fields, or the empty text. -/
def firstText (get? : String → Option Json) (keys : List String) : String :=
  ((keys.filterMap fun key => (get? key).bind Json.str?).find? fun s => !s.isEmpty).getD ""

/-- A text, or another one in place of an empty text. -/
def orElseText (s default : String) : String := if s.isEmpty then default else s

end PageBuilder
