/-!
The range of whole numbers that 64 bits hold, and the exact value of a double-precision number as a
whole number times a power of two, with the whole number it is when it has no fraction.
-/

namespace PageBuilder

def twoPow (n : Nat) : Nat := Nat.pow 2 n

def tenPow (n : Nat) : Nat := Nat.pow 10 n

/-- The first number that 64 bits do not hold. -/
def wordLimit : Nat := 18446744073709551616

/-- The first number that 64 bits do not hold when one of them is a sign. -/
def signedLimit : Nat := 9223372036854775808

/-- The number after another; after the last one that 64 bits hold comes zero. -/
def wordAfter (n : Nat) : Nat := (n + 1) % wordLimit

/-- A finite double: `±significand · 2 ^ exponent`. -/
structure Binary where
  negative : Bool
  significand : Nat
  exponent : Int
deriving DecidableEq, Repr

/-- The exact value of a finite double, read off its bits. -/
def Binary.ofFloat (x : Float) : Binary :=
  let bits := x.toBits.toNat
  let fraction := bits % twoPow 52
  let exponent := bits / twoPow 52 % twoPow 11
  -- below the smallest normal double the leading bit is missing and the exponent stays
  { negative := bits / twoPow 63 == 1
    significand := if exponent = 0 then fraction else twoPow 52 + fraction
    exponent := (max exponent 1 : Nat) - 1075 }

/-- The double lies at the lower end of its binade, so that its lower neighbour is half as far
away as its upper one. -/
def Binary.atBinadeStart (b : Binary) : Bool :=
  b.significand == twoPow 52 && b.exponent != -1074

/-- The whole number that the value is, if it has no fraction. -/
def Binary.toInt? (b : Binary) : Option Int :=
  let sign (n : Nat) : Int := if b.negative then -n else n
  match b.exponent with
  | .ofNat e => some (sign (b.significand * twoPow e))
  | .negSucc e =>
    if b.significand % twoPow (e + 1) = 0 then some (sign (b.significand / twoPow (e + 1)))
    else none

/-- The whole number next to the value in the direction of zero. -/
def Binary.truncate (b : Binary) : Int :=
  let size : Nat :=
    match b.exponent with
    | .ofNat e => b.significand * twoPow e
    | .negSucc e => b.significand / twoPow (e + 1)
  if b.negative then -size else size

end PageBuilder
