import PageBuilder.Bytes
import PageBuilder.Decimal.Reader
import PageBuilder.Text.Cut

/-!
Sources of ids. An id is the source's seed, a dash and a number. As long as the numbers fit 64 bits
they only go up, so that an id handed out once never comes again, also after its element is gone.
-/

namespace PageBuilder

/-- A source of ids: its seed and the last number handed out, which fits 64 bits. -/
structure IdSource where
  seed : String
  issued : Nat
deriving DecidableEq, Repr

namespace IdSource

/-- A source that has handed out nothing. -/
def ofSeed (seed : String) : IdSource := ⟨seed, 0⟩

/-- A source whose seed is the checksum of a session's key. -/
def ofKey (key : String) : IdSource := .ofSeed (checksum key)

/-- The id with a number. -/
def idOf (seed : String) (n : Nat) : String := seed ++ "-" ++ toString n

/-- The next id, and the source after it. -/
def next (s : IdSource) : String × IdSource :=
  (idOf s.seed (wordAfter s.issued), ⟨s.seed, wordAfter s.issued⟩)

/-- The number of an id that carries the seed. -/
def numberOf? (seed : String) (id : String) : Option Nat := do
  -- ids of other sessions have other seeds and cannot meet the ids of this source
  let rest ← afterFront? seed.toList id.toList
  let digits ← afterFront? ['-'] rest
  readNat64? digits

/-- The source moved past one id. -/
def pass (s : IdSource) (id : String) : IdSource :=
  match numberOf? s.seed id with
  | some n => ⟨s.seed, max s.issued n⟩
  | none => s

/-- The source moved past every id in a list that carries its seed. -/
def advancePast (s : IdSource) (ids : List String) : IdSource := ids.foldl pass s

end IdSource

end PageBuilder
