import PageBuilder.Json.Fields

/-!
Limits of a project store.
-/

namespace PageBuilder

/-- Limits of a project store. -/
structure StoreConfig where
  /-- The stored bytes that saving makes room for. -/
  byteBudget : Nat := 5242880
  /-- The most records that are kept. -/
  maxRecords : Nat := 50
  /-- How hard packing tries; it changes no record. -/
  compressionLevel : Int := 3
deriving DecidableEq, Repr

namespace StoreConfig

def fieldNames : List String := ["byteBudget", "maxRecords", "compressionLevel"]

def toMembers (c : StoreConfig) : List (String × Json) :=
  [("byteBudget", .nat c.byteBudget), ("maxRecords", .nat c.maxRecords),
    ("compressionLevel", .int c.compressionLevel)]

def toJson (c : StoreConfig) : Json := .obj c.toMembers

/-- The settings among some fields; what is missing has its usual value. -/
def ofFields? (f : Json.Fields) : Option StoreConfig := do
  let usual : StoreConfig := {}
  return {
    byteBudget := ← f.defaulted "byteBudget" usual.byteBudget Json.nat?
    maxRecords := ← f.defaulted "maxRecords" usual.maxRecords Json.nat?
    compressionLevel := ← f.defaulted "compressionLevel" usual.compressionLevel
      (Json.intBetween? (-2147483648) 2147483648) }

/-- The settings that a JSON record describes. -/
def ofJson? (j : Json) : Option StoreConfig := (j.fields? fieldNames).bind ofFields?

end StoreConfig

end PageBuilder
