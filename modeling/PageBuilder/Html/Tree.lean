import PageBuilder.Html.Escape

/-!
Markup as a tree. Texts and attribute values are escaped where the tree is written and nowhere else,
and every opened tag is closed, so both hold of whatever is written. A tree is laid out as a list of
pieces: lines with a depth, and raw script texts.
-/

namespace PageBuilder

/-- An attribute with a value, or a bare one. -/
structure Attr where
  name : String
  value : Option String

def attr (name value : String) : Attr := ⟨name, some value⟩

def flag (name : String) : Attr := ⟨name, none⟩

/-- Markup that stays on one line. -/
inductive Inline where
  | text (s : String)
  /-- A character given by its entity. -/
  | entity (name : String)
  /-- An element without content and without an end tag. -/
  | void (tag : String) (attrs : List Attr) (slash : Bool)
  | span (tag : String) (attrs : List Attr) (children : List Inline)

/-- Markup that takes up whole lines. -/
inductive Html where
  | line (content : Inline)
  /-- An element whose tags have lines of their own. -/
  | block (tag : String) (attrs : List Attr) (children : List Html)
  /-- A style sheet by its lines. -/
  | style (rules : List String)
  /-- A script and the name of its behaviour. -/
  | script (name : String) (body : String)

/-- An attribute with a blank in front. -/
def Attr.text (a : Attr) : String :=
  match a.value with
  | some v => " " ++ a.name ++ "=\"" ++ escapeHtml v ++ "\""
  | none => " " ++ a.name

def attrsText : List Attr → String
  | [] => ""
  | a :: rest => a.text ++ attrsText rest

def startTag (tag : String) (attrs : List Attr) : String := "<" ++ tag ++ attrsText attrs ++ ">"

def endTag (tag : String) : String := "</" ++ tag ++ ">"

mutual

/-- The written form of markup on one line. -/
def Inline.write : Inline → String
  | .text s => escapeHtml s
  | .entity name => "&" ++ name ++ ";"
  | .void tag attrs slash => "<" ++ tag ++ attrsText attrs ++ (if slash then " />" else ">")
  | .span tag attrs children => startTag tag attrs ++ Inline.writeAll children ++ endTag tag

/-- The written forms one after the other. -/
def Inline.writeAll : List Inline → String
  | [] => ""
  | i :: rest => i.write ++ Inline.writeAll rest

end

/-- A part of a document's text. -/
inductive Piece where
  | line (depth : Nat) (text : String)
  /-- A text that is never indented. -/
  | raw (text : String)

mutual

/-- The pieces of markup at a depth. -/
def Html.pieces (depth : Nat) : Html → List Piece
  | .line content => [.line depth content.write]
  | .block tag attrs children =>
    .line depth (startTag tag attrs) :: Html.allPieces (depth + 1) children ++
      [.line depth (endTag tag)]
  | .style rules =>
    .line depth "<style>" :: rules.map (Piece.line (depth + 1)) ++ [.line depth "</style>"]
  | .script name body =>
    [.line depth (startTag "script" [attr "data-module" name]), .raw (body ++ "\n"),
      .line depth "</script>"]

/-- The pieces of a list of markup at a depth. -/
def Html.allPieces (depth : Nat) : List Html → List Piece
  | [] => []
  | h :: rest => h.pieces depth ++ Html.allPieces depth rest

end

/-- Whether lines are indented and broken, and by what they are indented. -/
structure LayoutStyle where
  pretty : Bool
  indent : String

def repeatText (s : String) : Nat → String
  | 0 => ""
  | n + 1 => s ++ repeatText s n

/-- The text of a piece. Without pretty printing lines simply follow each other. -/
def Piece.write (style : LayoutStyle) : Piece → String
  | .line depth text => if style.pretty then repeatText style.indent depth ++ text ++ "\n" else text
  | .raw text => text

/-- The text of a list of pieces. -/
def writePieces (style : LayoutStyle) : List Piece → String
  | [] => ""
  | p :: rest => p.write style ++ writePieces style rest

def textSpan (tag : String) (attrs : List Attr) (s : String) : Html :=
  .line (.span tag attrs [.text s])

/-- A block whose only attribute is its class. -/
def divBlock (cls : String) (children : List Html) : Html :=
  .block "div" [attr "class" cls] children

end PageBuilder
