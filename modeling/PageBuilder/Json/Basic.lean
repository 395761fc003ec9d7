import PageBuilder.SortedMap
import PageBuilder.Decimal.Binary

/-!
JSON values. Integers and floating-point numbers are kept apart, and an object is the list of its
members as written. A value is *canonical* when every object in it lists its members in ascending
order of their keys, each key once; `Json.canonical` brings a value into that form.
-/

namespace PageBuilder

/-- A number of a JSON document. Integers stay integers, all else is a double. -/
inductive Json.Number where
  | int (n : Int)
  | float (x : Float)

/-- A JSON value. -/
inductive Json where
  | null
  | bool (b : Bool)
  | num (n : Json.Number)
  | str (s : String)
  | arr (items : List Json)
  | obj (members : List (String × Json))

instance : Inhabited Json := ⟨.null⟩

namespace Json

/-- The double nearest to a number. -/
def Number.toFloat : Number → Float
  | .int n => Float.ofInt n
  | .float x => x

/-- Equality of numbers: an integer never equals a double. -/
def Number.same : Number → Number → Bool
  | .int a, .int b => a == b
  | .float a, .float b => a == b
  | _, _ => false

def int (n : Int) : Json := .num (.int n)

def nat (n : Nat) : Json := .num (.int n)

/-- A double. One that is not finite has no written form and becomes `null`. -/
def ofFloat (x : Float) : Json := if x.isFinite then .num (.float x) else .null

def strings (items : List String) : Json := .arr (items.map .str)

/-- A value that may be missing; a missing one is `null`. -/
def option {α : Type} (f : α → Json) : Option α → Json
  | some a => f a
  | none => .null

/-- The object of a map. -/
def ofMap (m : SortedMap Json) : Json := .obj m.entries

mutual

/-- The same value with the members of every object sorted by key. Of two members with one key the
later one counts. -/
def canonical : Json → Json
  | .null => .null
  | .bool b => .bool b
  | .num n => .num n
  | .str s => .str s
  | .arr items => .arr (canonicalItems items)
  | .obj members => .ofMap (.ofList (canonicalMembers members))

def canonicalItems : List Json → List Json
  | [] => []
  | j :: rest => j.canonical :: canonicalItems rest

/-- The canonical form of every member's value. -/
def canonicalMembers : List (String × Json) → List (String × Json)
  | [] => []
  | (k, j) :: rest => (k, j.canonical) :: canonicalMembers rest

end

mutual

/-- Equality of values, with numbers compared as numbers. -/
def same : Json → Json → Bool
  | .null, .null => true
  | .bool a, .bool b => a == b
  | .num a, .num b => a.same b
  | .str a, .str b => a == b
  | .arr a, .arr b => sameItems a b
  | .obj a, .obj b => sameMembers a b
  | _, _ => false

/-- Equality of lists, item by item. -/
def sameItems : List Json → List Json → Bool
  | [], [] => true
  | a :: as, b :: bs => a.same b && sameItems as bs
  | _, _ => false

/-- Equality of members, one by one. -/
def sameMembers : List (String × Json) → List (String × Json) → Bool
  | [], [] => true
  | (k, a) :: as, (l, b) :: bs => k == l && a.same b && sameMembers as bs
  | _, _ => false

end

def str? : Json → Option String
  | .str s => some s
  | _ => none

def bool? : Json → Option Bool
  | .bool b => some b
  | _ => none

/-- The double nearest to a number. -/
def float? : Json → Option Float
  | .num n => some n.toFloat
  | _ => none

/-- An integer in `[low, high)`. A number written with a fraction or an exponent is none. -/
def intBetween? (low high : Int) : Json → Option Int
  | .num (.int n) => if low ≤ n && n < high then some n else none
  | _ => none

/-- A natural number below `2 ^ 64`. -/
def nat? (j : Json) : Option Nat := (j.intBetween? 0 wordLimit).map Int.toNat

def items? : Json → Option (List Json)
  | .arr items => some items
  | _ => none

/-- The members of an object as a map; each value is brought into canonical form. -/
def map? : Json → Option (SortedMap Json)
  | .obj members => some (.ofList (canonicalMembers members))
  | _ => none

/-- The members of an object as written. -/
def members? : Json → Option (List (String × Json))
  | .obj members => some members
  | _ => none

/-- The value of an object's last member with a key. -/
def get? (key : String) : Json → Option Json
  | .obj members => (members.filter fun m => m.1 == key).getLast?.map Prod.snd
  | _ => none

/-- A list whose items can all be read. -/
def list? {α : Type} (f : Json → Option α) : Json → Option (List α)
  | .arr items => items.mapM f
  | _ => none

end Json

end PageBuilder
