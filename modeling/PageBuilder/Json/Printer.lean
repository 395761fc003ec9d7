import PageBuilder.Json.Basic
import PageBuilder.Decimal.Shortest

/-!
The two written forms of a JSON value: compact, without any white space, and pretty, one item or
member to a line with two blanks for each level.
-/

namespace PageBuilder.Json

/-- The digit of a value below sixteen. -/
def hexDigit (n : Nat) : Char :=
  if n < 10 then Char.ofNat ('0'.toNat + n) else Char.ofNat ('a'.toNat + (n - 10))

def hex4 (n : Nat) : List Char :=
  [hexDigit (n / 4096 % 16), hexDigit (n / 256 % 16), hexDigit (n / 16 % 16), hexDigit (n % 16)]

/-- A character inside a string literal. -/
def escapeChar (c : Char) : List Char :=
  if c = '"' then ['\\', '"']
  else if c = '\\' then ['\\', '\\']
  else if c = '\n' then ['\\', 'n']
  else if c = '\r' then ['\\', 'r']
  else if c = '\t' then ['\\', 't']
  else if c = '\x08' then ['\\', 'b']
  else if c = '\x0c' then ['\\', 'f']
  else if c.toNat < 0x20 then '\\' :: 'u' :: hex4 c.toNat
  else [c]

def quoteChars (s : String) : List Char := '"' :: s.toList.flatMap escapeChar ++ ['"']

/-- A positive double. Values from `10 ^ -5` up to `10 ^ 16` are positional with at least one
decimal place; the others have an exponent that always carries its sign. -/
def doubleChars (d : Decimal) : List Char :=
  let cs := d.digitChars
  let point := cs.length + d.exponent
  if -5 < point && point ≤ 16 then
    d.plainChars ++ (if 0 ≤ d.exponent then ['.', '0'] else [])
  else
    let fraction := if cs.tail.isEmpty then [] else '.' :: cs.tail
    let e := point - 1
    cs.take 1 ++ fraction ++ 'e' :: (if e < 0 then '-' else '+') :: (toString e.natAbs).toList

/-- A number. Of two equally near decimals of a double the one with an even last digit is taken. -/
def Number.chars : Number → List Char
  | .int n => (toString n).toList
  | .float x =>
    if !x.isFinite then "null".toList
    else
      let b := Binary.ofFloat x
      let size := if b.significand = 0 then "0.0".toList else doubleChars (b.shortest .toEven)
      if b.negative then '-' :: size else size

mutual

def chars : Json → List Char
  | .null => "null".toList
  | .bool true => "true".toList
  | .bool false => "false".toList
  | .num n => n.chars
  | .str s => quoteChars s
  | .arr items => '[' :: itemChars items
  | .obj members => '\x7b' :: memberChars members

/-- The items of a list up to its closing bracket. -/
def itemChars : List Json → List Char
  | [] => [']']
  | j :: rest => j.chars ++ (match rest with
    | [] => [']']
    | _ => ',' :: itemChars rest)

/-- The members of an object up to its closing brace. -/
def memberChars : List (String × Json) → List Char
  | [] => ['\x7d']
  | (k, j) :: rest => quoteChars k ++ ':' :: j.chars ++ (match rest with
    | [] => ['\x7d']
    | _ => ',' :: memberChars rest)

end

/-- A line break and the blanks of a level. -/
def newLine (level : Nat) : List Char := '\n' :: List.replicate (2 * level) ' '

mutual

/-- The pretty form of a value whose first line stands at `level`. -/
def prettyChars (level : Nat) : Json → List Char
  | .null => "null".toList
  | .bool true => "true".toList
  | .bool false => "false".toList
  | .num n => n.chars
  | .str s => quoteChars s
  | .arr items => if items.isEmpty then ['[', ']'] else '[' :: prettyItems level items
  | .obj members =>
    if members.isEmpty then ['\x7b', '\x7d'] else '\x7b' :: prettyMembers level members

/-- The items of a nonempty list, each on a line of its own, and the closing bracket. -/
def prettyItems (level : Nat) : List Json → List Char
  | [] => newLine level ++ [']']
  | j :: rest => newLine (level + 1) ++ prettyChars (level + 1) j ++
    (if rest.isEmpty then [] else [',']) ++ prettyItems level rest

/-- The members of a nonempty object, each on a line of its own, and the closing brace. -/
def prettyMembers (level : Nat) : List (String × Json) → List Char
  | [] => newLine level ++ ['\x7d']
  | (k, j) :: rest => newLine (level + 1) ++ quoteChars k ++ ':' :: ' ' ::
    prettyChars (level + 1) j ++ (if rest.isEmpty then [] else [',']) ++ prettyMembers level rest

end

def compact (j : Json) : String := String.ofList j.chars

def pretty (j : Json) : String := String.ofList (j.prettyChars 0)

end PageBuilder.Json
