import PageBuilder.Decimal.Reader
import PageBuilder.Json.Basic

/-!
The scalars of JSON text, from their first character on: strings without raw control characters and
without halves of surrogate pairs, and numbers that fit a double. What does not count is passed over
by `skipString` and `writtenNumber?`, which look at the form alone.
-/

namespace PageBuilder.Json

/-- White space between tokens. -/
def isSpace (c : Char) : Bool := c = ' ' || c = '\n' || c = '\t' || c = '\r'

def skipSpace (cs : List Char) : List Char := cs.dropWhile isSpace

def hexValue? (c : Char) : Option Nat :=
  if '0' ≤ c && c ≤ '9' then some (c.toNat - '0'.toNat)
  else if 'a' ≤ c && c ≤ 'f' then some (c.toNat - 'a'.toNat + 10)
  else if 'A' ≤ c && c ≤ 'F' then some (c.toNat - 'A'.toNat + 10)
  else none

def hex4Value? (a b c d : Char) : Option Nat := do
  return (((← hexValue? a) * 16 + (← hexValue? b)) * 16 + (← hexValue? c)) * 16 + (← hexValue? d)

/-- The character that a backslash and one letter stand for. -/
def shortEscape? (c : Char) : Option Char :=
  if c = '"' || c = '\\' || c = '/' then some c
  else if c = 'b' then some '\x08'
  else if c = 'f' then some '\x0c'
  else if c = 'n' then some '\n'
  else if c = 'r' then some '\r'
  else if c = 't' then some '\t'
  else none

/-- The characters of a string literal after its opening quote, and what follows the closing one. -/
def stringBody : List Char → Option (List Char × List Char)
  | [] => none
  | '"' :: rest => some ([], rest)
  | '\\' :: 'u' :: a :: b :: c :: d :: rest =>
    match hex4Value? a b c d with
    | none => none
    | some n =>
      if 0xd800 ≤ n && n < 0xdc00 then
        match rest with
        | '\\' :: 'u' :: e :: f :: g :: h :: rest =>
          match hex4Value? e f g h with
          | none => none
          | some m =>
            if 0xdc00 ≤ m && m < 0xe000 then
              (stringBody rest).map fun r =>
                (Char.ofNat (0x10000 + (n - 0xd800) * 0x400 + (m - 0xdc00)) :: r.1, r.2)
            else none
        | _ => none
      else if 0xdc00 ≤ n && n < 0xe000 then none
      else (stringBody rest).map fun r => (Char.ofNat n :: r.1, r.2)
  | '\\' :: c :: rest =>
    match shortEscape? c with
    | none => none
    | some e => (stringBody rest).map fun r => (e :: r.1, r.2)
  | c :: rest =>
    if c = '\\' || c.toNat < 0x20 then none
    else (stringBody rest).map fun r => (c :: r.1, r.2)

/-- What follows a string literal after its opening quote. Halves of surrogate pairs may stand
alone. -/
def skipString : List Char → Option (List Char)
  | [] => none
  | '"' :: rest => some rest
  | '\\' :: 'u' :: a :: b :: c :: d :: rest =>
    if (hex4Value? a b c d).isSome then skipString rest else none
  | '\\' :: c :: rest => if (shortEscape? c).isSome then skipString rest else none
  | c :: rest => if c = '\\' || c.toNat < 0x20 then none else skipString rest

/-- Appends digits to a significand while it stays below `2 ^ 64`; the first digit that does not fit
and all after it are left out. Gives the significand and the number of digits left out. -/
def appendDigits (significand : Nat) : List Char → Nat × Nat
  | [] => (significand, 0)
  | c :: rest =>
    let next := significand * 10 + (c.toNat - '0'.toNat)
    if next < wordLimit then appendDigits next rest else (significand, rest.length + 1)

/-- A power of ten as a double. -/
def powerOfTen (n : Nat) : Float := Float.ofScientific 1 false n

/-- `x / 10 ^ e`, through divisions by `10 ^ 308` while `e` is larger. No significand is left
after two of those. -/
def scaleDown : Nat → Float → Nat → Float
  | 0, x, e => x / powerOfTen (min e 308)
  | steps + 1, x, e =>
    if e ≤ 308 then x / powerOfTen e
    else if x == 0.0 then x
    else scaleDown steps (x / powerOfTen 308) (e - 308)

/-- `x · 10 ^ e` by a single multiplication or by divisions, unless it exceeds every double. -/
def scaleFloat? (x : Float) : Int → Option Float
  | .ofNat e =>
    if e ≤ 308 then
      let y := x * powerOfTen e
      if y.isFinite then some y else none
    else if x == 0.0 then some x else none
  | .negSucc e => some (scaleDown 3 x (e + 1))

/-- The digits after a point, if there is one, and what follows. A point needs a digit after it. -/
def fractionPart? : List Char → Option (List Char × List Char)
  | '.' :: cs =>
    let ds := cs.takeWhile Char.isDigit
    if ds.isEmpty then none else some (ds, cs.dropWhile Char.isDigit)
  | cs => some ([], cs)

/-- The exponent after a letter e, if there is one, and what follows. -/
def exponentPart? : List Char → Option (Option Int × List Char)
  | e :: cs =>
    if e = 'e' || e = 'E' then
      let (negative, cs) :=
        match cs with
        | '-' :: tail => (true, tail)
        | '+' :: tail => (false, tail)
        | tail => (false, tail)
      let ds := cs.takeWhile Char.isDigit
      if ds.isEmpty then none
      else
        let n : Int := digitsValue ds
        some (some (if negative then -n else n), cs.dropWhile Char.isDigit)
    else some (none, e :: cs)
  | [] => some (none, [])

/-- The integer of a number without fraction and exponent. Minus zero and integers below `-2 ^ 63`
are doubles. -/
def integerNumber (negative : Bool) (n : Nat) : Number :=
  if !negative then .int n
  else if n = 0 || signedLimit < n then .float (-Float.ofNat n)
  else .int (-n)

/-- The double of a number given by its digits. The significand takes in as many digits of either
part as 64 bits hold. An exponent of more than 31 bits leaves zero or nothing. -/
def doubleOfDigits? (whole fraction : List Char) (exponent : Int) : Option Float :=
  let (significand, extra) := appendDigits 0 whole
  let (significand, unused) := appendDigits significand fraction
  if twoPow 31 ≤ exponent.natAbs then
    if significand ≠ 0 && 0 < exponent then none else some 0.0
  else
    scaleFloat? (Float.ofNat significand) (exponent + extra - (fraction.length - unused : Nat))

/-- A number as it is written. -/
structure WrittenNumber where
  negative : Bool
  whole : List Char
  fraction : List Char
  exponent : Option Int

/-- The number that a text starts with, and what follows it. -/
def writtenNumber? (cs : List Char) : Option (WrittenNumber × List Char) :=
  let (negative, cs) :=
    match cs with
    | '-' :: tail => (true, tail)
    | tail => (false, tail)
  let whole := cs.takeWhile Char.isDigit
  if whole.isEmpty || (whole.head? = some '0' && whole.length ≠ 1) then none
  else do
    let (fraction, cs) ← fractionPart? (cs.dropWhile Char.isDigit)
    let (exponent, cs) ← exponentPart? cs
    return (⟨negative, whole, fraction, exponent⟩, cs)

/-- The value of a number, unless it exceeds every double. -/
def WrittenNumber.value? (n : WrittenNumber) : Option Number :=
  if n.fraction.isEmpty && n.exponent.isNone && (appendDigits 0 n.whole).2 = 0 then
    some (integerNumber n.negative (appendDigits 0 n.whole).1)
  else
    -- the sign comes last, so that a zero keeps it
    (doubleOfDigits? n.whole n.fraction (n.exponent.getD 0)).map fun x =>
      .float (if n.negative then -x else x)

/-- A number's value and what follows it. -/
def readNumber? (cs : List Char) : Option (Number × List Char) := do
  let (written, cs) ← writtenNumber? cs
  return (← written.value?, cs)

def afterWord? (word : String) (cs : List Char) : Option (List Char) :=
  if word.toList.isPrefixOf cs then some (cs.drop word.length) else none

end PageBuilder.Json
