/-!
Outlines: which parts of a value count for its reader. A record leaves out the members that are none
of its fields, and of these a text need only show that they are well formed.
-/

namespace PageBuilder.Json

/-- The parts of a JSON value that count. -/
inductive Outline where
  /-- All of it. -/
  | whole
  /-- The fields of a record, by name or as a list in their order, and nothing else. -/
  | record (fields : List (String × Outline))
  /-- All members of an object, of some of them an outline. -/
  | object (fields : List (String × Outline))
  /-- The same part of each item of a list or member of an object. -/
  | each (part : Outline)

namespace Outline

/-- A record with the given field names, of which some have an outline of their own. -/
def fields (names : List String) (parts : List (String × Outline)) : Outline :=
  .record (names.map fun name => (name, (parts.lookup name).getD .whole))

/-- The outline of an object's member; there is none if the member does not count. -/
def member? (name : String) : Outline → Option Outline
  | .whole => some .whole
  | .record fields => fields.lookup name
  | .object fields => some ((fields.lookup name).getD .whole)
  | .each part => some part

/-- The outline of a list's first item, and that of the list of the others. -/
def split : Outline → Outline × Outline
  | .record (f :: fields) => (f.2, .record fields)
  | .each part => (part, .each part)
  | _ => (.whole, .whole)

end Outline

/-- Levels of lists and objects that may count in a text. -/
def maxNesting : Nat := 127

end PageBuilder.Json
