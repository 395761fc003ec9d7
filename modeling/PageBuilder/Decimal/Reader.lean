import PageBuilder.Decimal.Binary

/-!
Reading a double from decimal text: an optional sign, digits with an optional point, an optional
exponent, or one of the words for infinity and not-a-number.
-/

namespace PageBuilder

/-- The whole number that a list of ASCII digits denotes. -/
def digitsValue (cs : List Char) : Nat :=
  cs.foldl (fun n c => n * 10 + (c.toNat - '0'.toNat)) 0

/-- The double nearest to `digits · 10 ^ exponent`. Exponents that no double can reach are cut off
before any power is formed. -/
def nearestDouble (digits : Nat) (exponent : Int) : Float :=
  if digits = 0 then 0.0
  else
    let size := (toString digits).length + exponent
    if 310 < size then 1.0 / 0.0
    else if size < -330 then 0.0
    else
      match exponent with
      | .ofNat e => Float.ofScientific digits false e
      | .negSucc e => Float.ofScientific digits true (e + 1)

/-- The exponent part of a decimal text, which has to use up all of it. -/
def exponentPart? : List Char → Option Int
  | [] => some 0
  | e :: rest =>
    if e = 'e' || e = 'E' then
      let (negative, ds) :=
        match rest with
        | '-' :: ds => (true, ds)
        | '+' :: ds => (false, ds)
        | ds => (false, ds)
      if ds.isEmpty || !ds.all Char.isDigit then none
      else some (if negative then -(digitsValue ds : Int) else digitsValue ds)
    else none

/-- A decimal text without its sign. At least one digit stands before or after the point. -/
def unsignedDouble? (cs : List Char) : Option Float :=
  let word := String.ofList (cs.map Char.toLower)
  if word = "inf" || word = "infinity" then some (1.0 / 0.0)
  else if word = "nan" then some (0.0 / 0.0)
  else
    let whole := cs.takeWhile Char.isDigit
    let afterWhole := cs.dropWhile Char.isDigit
    let (fraction, rest) :=
      match afterWhole with
      | '.' :: tail => (tail.takeWhile Char.isDigit, tail.dropWhile Char.isDigit)
      | tail => ([], tail)
    if whole.isEmpty && fraction.isEmpty then none
    else
      (exponentPart? rest).map fun e =>
        nearestDouble (digitsValue (whole ++ fraction)) (e - fraction.length)

/-- The double nearest to the number that a text denotes. -/
def readDouble? (s : String) : Option Float :=
  match s.toList with
  | '-' :: cs => (unsignedDouble? cs).map fun x => -x
  | '+' :: cs => unsignedDouble? cs
  | cs => unsignedDouble? cs

/-- The natural number below `2 ^ 64` that a text of digits denotes, after an optional plus. -/
def readNat64? (cs : List Char) : Option Nat :=
  let ds := match cs with
    | '+' :: ds => ds
    | ds => ds
  if ds.isEmpty || !ds.all Char.isDigit then none
  else if digitsValue ds < wordLimit then some (digitsValue ds) else none

end PageBuilder
