import PageBuilder.Calendar
import PageBuilder.Decimal.Reader
import PageBuilder.Json.Basic
import PageBuilder.Text.Cut

/-!
Points in time to the nanosecond, written in universal time with a `Z` at the end. Texts with
another offset are read as well, and blanks between the parts of a date do not count.
-/

namespace PageBuilder

/-- Seconds since 1970-01-01T00:00:00Z, and the nanoseconds after them. From a whole second of
nanoseconds on the point lies in a leap second. -/
structure Instant where
  seconds : Int
  nanos : Nat
deriving DecidableEq, Repr

namespace Instant

/-- The order in time. -/
def le (a b : Instant) : Bool :=
  a.seconds < b.seconds || (a.seconds == b.seconds && a.nanos ≤ b.nanos)

def secondNanos : Nat := 1000000000

/-- Nanoseconds since the start of 1970. -/
def toNanos (t : Instant) : Int := t.seconds * secondNanos + t.nanos

/-- The point a number of nanoseconds after the start of 1970. -/
def ofNanos (n : Int) : Instant := ⟨n.fdiv secondNanos, (n.fmod secondNanos).toNat⟩

def daysBefore (t : Instant) (days : Nat) : Instant :=
  { t with seconds := t.seconds - days * 86400 }

def padded (width n : Nat) : String :=
  let digits := Nat.toDigits 10 n
  String.ofList (List.replicate (width - digits.length) '0' ++ digits)

def date (t : Instant) : CalendarDate := .ofDays (t.seconds.fdiv 86400)

def secondOfDay (t : Instant) : Nat := (t.seconds.fmod 86400).toNat

/-- A year: four digits, or a sign and at least four digits outside of 0 to 9999. -/
def yearText (year : Int) : String :=
  if 0 ≤ year && year ≤ 9999 then padded 4 year.toNat
  else (if year < 0 then "-" else "+") ++ padded 4 year.natAbs

/-- The second of the minute, 60 in a leap second. -/
def secondText (t : Instant) : String := padded 2 (t.secondOfDay % 60 + t.nanos / secondNanos)

/-- The fraction of a second with as many groups of three digits as it needs. -/
def fractionText (nanos : Nat) : String :=
  if nanos = 0 then ""
  else if nanos % 1000000 = 0 then "." ++ padded 3 (nanos / 1000000)
  else if nanos % 1000 = 0 then "." ++ padded 6 (nanos / 1000)
  else "." ++ padded 9 nanos

def dateText (t : Instant) : String :=
  yearText t.date.year ++ "-" ++ padded 2 t.date.month ++ "-" ++ padded 2 t.date.day

def text (t : Instant) : String :=
  t.dateText ++ "T" ++ padded 2 (t.secondOfDay / 3600) ++ ":" ++
    padded 2 (t.secondOfDay / 60 % 60) ++ ":" ++ t.secondText ++
    fractionText (t.nanos % secondNanos) ++ "Z"

/-- Date and time without any separators but one dash, for file names. -/
def stamp (t : Instant) : String :=
  yearText t.date.year ++ padded 2 t.date.month ++ padded 2 t.date.day ++ "-" ++
    padded 2 (t.secondOfDay / 3600) ++ padded 2 (t.secondOfDay / 60 % 60) ++ t.secondText

def minuteText (t : Instant) : String :=
  t.dateText ++ " " ++ padded 2 (t.secondOfDay / 3600) ++ ":" ++ padded 2 (t.secondOfDay / 60 % 60)

/-- A number of at most `most` digits, after blanks, and what follows it. -/
def readNumber? (most : Nat) (cs : List Char) : Option (Nat × List Char) :=
  let cs := trimStartChars cs
  let digits := (cs.take most).takeWhile Char.isDigit
  if digits.isEmpty then none else some (digitsValue digits, cs.drop digits.length)

/-- A year and what follows it. After a sign it may have any number of digits. -/
def readYear? (cs : List Char) : Option (Int × List Char) :=
  let signed (sign : Int) (rest : List Char) : Option (Int × List Char) :=
    let digits := rest.takeWhile Char.isDigit
    if digits.isEmpty then none
    else some (sign * (digitsValue digits : Int), rest.drop digits.length)
  match trimStartChars cs with
  | '-' :: rest => signed (-1) rest
  | '+' :: rest => signed 1 rest
  | rest => (readNumber? 4 rest).map fun r => (r.1, r.2)

/-- What follows a mark, which blanks may precede. -/
def afterMark? (mark : Char) (cs : List Char) : Option (List Char) :=
  match trimStartChars cs with
  | c :: rest => if c = mark then some rest else none
  | [] => none

/-- The nanoseconds of a fraction after a point, and what follows. Digits after the ninth are passed
over. -/
def readFraction? (cs : List Char) : Option (Nat × List Char) :=
  match cs with
  | '.' :: rest =>
    let digits := rest.takeWhile Char.isDigit
    if digits.isEmpty then none
    else
      let kept := digits.take 9
      some (digitsValue kept * tenPow (9 - kept.length), rest.drop digits.length)
  | _ => some (0, cs)

/-- The seconds of an offset from universal time, and what follows. -/
def readOffset? (cs : List Char) : Option (Int × List Char) :=
  match cs with
  | 'Z' :: rest => some (0, rest)
  | 'z' :: rest => some (0, rest)
  | c :: rest =>
    if (c :: rest.take 2).map Char.toLower = "utc".toList then some (0, rest.drop 2)
    else
      let sign? : Option Int := if c = '+' then some 1
        else if c = '-' || c.toNat = 0x2212 then some (-1) else none
      match sign?, rest with
      | some sign, h1 :: h2 :: rest =>
        match rest.dropWhile fun c => c == ':' || isBlank c with
        | m1 :: m2 :: rest =>
          if h1.isDigit && h2.isDigit && m1.isDigit && m2.isDigit && digitsValue [m1, m2] < 60 then
            some (sign * (digitsValue [h1, h2] * 3600 + digitsValue [m1, m2] * 60 : Nat), rest)
          else none
        | _ => none
      | _, _ => none
  | [] => none

/-- Years that a point in time can have. -/
def yearInRange (year : Int) : Bool := -262143 ≤ year && year ≤ 262142

/-- The point in time that a text denotes: date, a letter t or a blank, time, offset. -/
def ofText? (s : String) : Option Instant := do
  let (year, cs) ← readYear? s.toList
  let cs ← afterMark? '-' cs
  let (month, cs) ← readNumber? 2 cs
  let cs ← afterMark? '-' cs
  let (day, cs) ← readNumber? 2 cs
  let cs ← match cs with
    | c :: rest => if c = 'T' || c = 't' || c = ' ' then some rest else none
    | [] => none
  let (hour, cs) ← readNumber? 2 cs
  let cs ← afterMark? ':' cs
  let (minute, cs) ← readNumber? 2 cs
  let cs ← afterMark? ':' cs
  let (second, cs) ← readNumber? 2 cs
  let (fraction, cs) ← readFraction? cs
  let (offset, cs) ← readOffset? (trimStartChars cs)
  let date : CalendarDate := ⟨year, month, day⟩
  if !(trimStartChars cs).isEmpty || !yearInRange year || !date.isValid || 23 < hour ||
      59 < minute || 60 < second || 86400 ≤ offset.natAbs then none
  else
    -- a leap second is the second before it with a whole second more of nanoseconds
    let leap := second == 60
    let seconds := date.toDays * 86400 + (hour * 3600 + minute * 60 : Nat) +
      ((if leap then 59 else second : Nat) : Int) - offset
    let t : Instant := ⟨seconds, fraction + (if leap then secondNanos else 0)⟩
    -- the offset can move a time at the edge of the range out of it
    if yearInRange t.date.year then some t else none

def toJson (t : Instant) : Json := .str t.text

/-- The point in time that a JSON text denotes. -/
def ofJson? (j : Json) : Option Instant := j.str?.bind ofText?

end Instant

end PageBuilder
