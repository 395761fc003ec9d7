import PageBuilder.Instant
import PageBuilder.Json.Printer
import PageBuilder.Section
import PageBuilder.Text.Lowercase

/-!
Saved projects: the sections of a document with a name, tags, timestamps and a version. Whatever
else its producer attached is kept in `extra` and never stored.
-/

namespace PageBuilder

/-- A saved project. -/
structure ProjectRecord where
  id : String
  name : String
  description : String
  tags : List String
  sections : Sections
  createdAt : Instant
  updatedAt : Instant
  version : Nat
  thumbnail : Option String
  extra : SortedMap Json

/-- The id of a project from its name and the time it was made. Times that 64 bits of nanoseconds do
not reach count as zero. -/
def projectId (name : String) (at_ : Instant) : String :=
  let nanos := if -signedLimit ≤ at_.toNanos && at_.toNanos < signedLimit then at_.toNanos else 0
  "project-" ++ checksum (name ++ ":" ++ toString nanos)

namespace ProjectRecord

/-- A project that has never been saved. -/
def new (name : String) (sections : Sections) (now : Instant) : ProjectRecord :=
  { id := projectId name now, name := name, description := "", tags := [], sections := sections
    createdAt := now, updatedAt := now, version := 0, thumbnail := none, extra := .empty }

/-- The record without what its producer attached. -/
def stripped (r : ProjectRecord) : ProjectRecord := { r with extra := .empty }

def elementCount (r : ProjectRecord) : Nat :=
  total (r.sections.values.map fun s => Forest.count s.elements)

/-- The name, the description or a tag contains the query, in any case. A blank query matches every
record. -/
def isMatch (r : ProjectRecord) (query : String) : Bool :=
  let query := lowerText (trim query)
  query.isEmpty || containsText (lowerText r.name) query ||
    containsText (lowerText r.description) query ||
    r.tags.any fun tag => containsText (lowerText tag) query

def fieldNames : List String :=
  ["id", "name", "description", "tags", "sections", "createdAt", "updatedAt", "version",
    "thumbnail"]

/-- The fields of a record as JSON, without what its producer attached. -/
def toMembers (r : ProjectRecord) : List (String × Json) :=
  [("id", .str r.id), ("name", .str r.name), ("description", .str r.description),
    ("tags", .strings r.tags), ("sections", r.sections.toJson), ("createdAt", r.createdAt.toJson),
    ("updatedAt", r.updatedAt.toJson), ("version", .nat r.version)] ++
  (match r.thumbnail with
  | some t => [("thumbnail", .str t)]
  | none => [])

def toJson (r : ProjectRecord) : Json := .obj (r.toMembers ++ r.extra.entries)

/-- The parts of a record's object that count: all members, but only the fields of its sections. -/
def outline : Json.Outline := .object [("sections", .each Section.outline)]

/-- The record that a JSON object describes. Times that are missing are `now`. -/
def ofJson? (now : Instant) : Json → Option ProjectRecord
  | .obj members => do
    let f ← Json.namedFields? fieldNames members
    return {
      id := ← f.defaulted "id" "" Json.str?
      name := ← f.required "name" Json.str?
      description := ← f.defaulted "description" "" Json.str?
      tags := ← f.defaulted "tags" [] (Json.list? Json.str?)
      sections := ← f.required "sections" Sections.ofJson?
      createdAt := ← f.defaulted "createdAt" now Instant.ofJson?
      updatedAt := ← f.defaulted "updatedAt" now Instant.ofJson?
      version := ← f.defaulted "version" 0 Json.nat?
      thumbnail := ← f.optionalEnd "thumbnail" Json.str?
      extra := Json.otherFields fieldNames (.obj members) }
  | _ => none

/-- Equality, with numbers compared as numbers. -/
def same (a b : ProjectRecord) : Bool :=
  a.id == b.id && a.name == b.name && a.description == b.description && a.tags == b.tags &&
    a.sections.same b.sections && a.createdAt == b.createdAt && a.updatedAt == b.updatedAt &&
    a.version == b.version && a.thumbnail == b.thumbnail && a.extra.sameBy Json.same b.extra

end ProjectRecord

end PageBuilder
