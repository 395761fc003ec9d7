import PageBuilder.Decimal.Binary

/-!
The fewest decimal digits that single out a double: of all decimal grids `10 ^ k` the coarsest one
with a point between the double's two midpoints, and on it the point nearest to the value. In
positional notation, as style sheets want it, these digits stand without an exponent, and a whole
number without a fraction.
-/

namespace PageBuilder

/-- A non-negative decimal number: `digits · 10 ^ exponent`. -/
structure Decimal where
  digits : Nat
  exponent : Int
deriving DecidableEq, Repr

/-- Which of two equally near grid points is taken. -/
inductive Tie where
  | toEven
  | up
deriving DecidableEq, Repr

/-- The value, the interval of reals that round to it and the points of one decimal grid, all
scaled to whole numbers: the grid point `d` lies at `d * step`. -/
structure DecimalGrid where
  value : Nat
  lower : Nat
  upper : Nat
  step : Nat
  closed : Bool

/-- The grid of spacing `10 ^ k` around a double. -/
def DecimalGrid.around (b : Binary) (k : Int) : DecimalGrid :=
  -- four times the significand, so that the midpoints to both neighbours are whole numbers too
  let unit := twoPow (b.exponent - 2).toNat * tenPow (-k).toNat
  { value := 4 * b.significand * unit
    lower := (4 * b.significand - (if b.atBinadeStart then 1 else 2)) * unit
    upper := (4 * b.significand + 2) * unit
    step := tenPow k.toNat * twoPow (2 - b.exponent).toNat
    closed := b.significand % 2 == 0 }

/-- The grid point `d` rounds to the value. -/
def DecimalGrid.holds (g : DecimalGrid) (d : Nat) : Bool :=
  let p := d * g.step
  if g.closed then g.lower ≤ p && p ≤ g.upper else g.lower < p && p < g.upper

/-- The nearest grid point that rounds to the value, if the grid has one. -/
def DecimalGrid.nearest? (g : DecimalGrid) (tie : Tie) : Option Nat :=
  let d := g.value / g.step
  let below := g.value - d * g.step
  let above := (d + 1) * g.step - g.value
  let up : Bool := if below = above then tie == .up || d % 2 == 1 else above < below
  match g.holds d, g.holds (d + 1) with
  | true, true => some (if up then d + 1 else d)
  | true, false => some d
  | false, true => some (d + 1)
  | false, false => none

/-- The first grid with a hit, from spacing `10 ^ k` downwards over at most `steps` grids. -/
def Binary.shortestFrom (b : Binary) (tie : Tie) : Nat → Int → Decimal
  | 0, k => ⟨(DecimalGrid.around b k).value / (DecimalGrid.around b k).step, k⟩
  | steps + 1, k =>
    match (DecimalGrid.around b k).nearest? tie with
    | some d => ⟨d, k⟩
    | none => b.shortestFrom tie steps (k - 1)

/-- The shortest decimal of a positive double. The search starts at a power of ten above the
value; seventeen digits always suffice. -/
def Binary.shortest (b : Binary) (tie : Tie) : Decimal :=
  -- the value is below `2 ^ binade`, and 0.30103 is a little more than the decimal logarithm of two
  let binade := b.exponent + (b.significand.log2 + 1 : Nat)
  b.shortestFrom tie 22 (binade * 30103 / 100000 + 2)

/-- The digits of a decimal number, without its point. -/
def Decimal.digitChars (d : Decimal) : List Char := (toString d.digits).toList

/-- The text in positional notation, with no fraction where none is needed. -/
def Decimal.plainChars (d : Decimal) : List Char :=
  let cs := d.digitChars
  match d.exponent with
  | .ofNat zeros => cs ++ List.replicate zeros '0'
  | .negSucc n =>
    let places := n + 1
    if places < cs.length then
      cs.take (cs.length - places) ++ '.' :: cs.drop (cs.length - places)
    else '0' :: '.' :: List.replicate (places - cs.length) '0' ++ cs

/-- A double in positional notation. Of two equally near decimals the upper one is taken. -/
def plainNumber (x : Float) : String :=
  if x.isNaN then "NaN"
  else
    let b := Binary.ofFloat x
    let size :=
      if !x.isFinite then "inf".toList
      else if b.significand = 0 then ['0']
      else (b.shortest .up).plainChars
    String.ofList (if b.negative then '-' :: size else size)

/-- A length in pixels. Whole numbers below `10 ^ 15` are written as integers, so that a negative
zero loses its sign. -/
def formatPx (x : Float) : String :=
  let whole := if x.isFinite then (Binary.ofFloat x).toInt? else none
  match whole with
  | some n => (if n.natAbs < tenPow 15 then toString n else plainNumber x) ++ "px"
  | none => plainNumber x ++ "px"

end PageBuilder
