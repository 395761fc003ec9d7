/-!
White space of every script, and cutting texts: off their ends, at a separator and into lines.
-/

namespace PageBuilder

/-- White space: the ASCII blanks, next line, no-break space and the space, line and paragraph
separators of the other blocks. -/
def isBlank (c : Char) : Bool :=
  let n := c.toNat
  (9 ≤ n && n ≤ 13) || n == 0x20 || n == 0x85 || n == 0xa0 || n == 0x1680 ||
    (0x2000 ≤ n && n ≤ 0x200a) || n == 0x2028 || n == 0x2029 || n == 0x202f || n == 0x205f ||
    n == 0x3000

/-- The characters without the white space in front. -/
def trimStartChars (cs : List Char) : List Char := cs.dropWhile isBlank

/-- The characters without the white space at the end. -/
def trimEndChars (cs : List Char) : List Char := (cs.reverse.dropWhile isBlank).reverse

/-- The characters without the white space at both ends. -/
def trimChars (cs : List Char) : List Char := trimEndChars (trimStartChars cs)

/-- A text without the white space at both ends. -/
def trim (s : String) : String := String.ofList (trimChars s.toList)

/-- What follows `front` in a list that starts with it. -/
def afterFront? (front cs : List Char) : Option (List Char) :=
  if front.isPrefixOf cs then some (cs.drop front.length) else none

/-- What stands before `back` in a list that ends with it. -/
def beforeBack? (back cs : List Char) : Option (List Char) :=
  if back.isSuffixOf cs then some (cs.take (cs.length - back.length)) else none

def startsWith (s front : String) : Bool := front.toList.isPrefixOf s.toList

def endsWith (s back : String) : Bool := back.toList.isSuffixOf s.toList

/-- A text without a character at its end, however often it stands there. -/
def withoutEnd (c : Char) (s : String) : String :=
  String.ofList (s.toList.reverse.dropWhile (· == c)).reverse

def containsChars (needle : List Char) : List Char → Bool
  | [] => needle.isEmpty
  | c :: cs => needle.isPrefixOf (c :: cs) || containsChars needle cs

def containsText (s needle : String) : Bool := containsChars needle.toList s.toList

/-- The parts before and after the first separator, if there is one. -/
def splitAtFirst? (separator : Char) (cs : List Char) : Option (List Char × List Char) :=
  match cs.dropWhile (· != separator) with
  | [] => none
  | _ :: rest => some (cs.takeWhile (· != separator), rest)

/-- The parts between separators; `n` separators leave `n + 1` parts. -/
def splitOnChar (separator : Char) : List Char → List (List Char)
  | [] => [[]]
  | c :: cs =>
    if c = separator then [] :: splitOnChar separator cs
    else
      match splitOnChar separator cs with
      | [] => [[c]]
      | part :: parts => (c :: part) :: parts

/-- A line without the carriage return at its end. -/
def withoutReturn (line : List Char) : List Char :=
  if line.getLast? = some '\r' then line.dropLast else line

/-- The lines of a text. A line ends with a line feed, or a carriage return and a line feed; the
last one need not end. -/
def lines (s : String) : List String :=
  let parts := splitOnChar '\n' s.toList
  let ended := parts.dropLast.map withoutReturn
  let last := parts.getLast?.getD []
  (if last.isEmpty then ended else ended ++ [last]).map String.ofList

/-- Parts with a text between each two. -/
def joinWith (between : String) : List String → String
  | [] => ""
  | [s] => s
  | s :: rest => s ++ between ++ joinWith between rest

def concatTexts : List String → String
  | [] => ""
  | s :: rest => s ++ concatTexts rest

end PageBuilder
