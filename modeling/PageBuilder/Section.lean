import PageBuilder.Forest
import PageBuilder.Text.Alphanumeric
import PageBuilder.Text.Lowercase

/-!
Sections: the pages of a document, each with a forest of its own. A document keeps its sections in a
map by id; one of them is the home section. The slug of a section is made of the runs of letters and
digits of its name, in lower case and joined by single dashes.
-/

namespace PageBuilder

/-- The slug characters of the rest of a name. `started` once a character has been kept, `pending`
when something has been left out since. -/
def slugChars (kept : Char → Bool) (lower : Char → List Char) :
    (started pending : Bool) → List Char → List Char
  | _, _, [] => []
  | started, pending, c :: cs =>
    if kept c then
      (if started && pending then '-' :: lower c else lower c) ++ slugChars kept lower true false cs
    else slugChars kept lower started true cs

/-- The slug of a name over given tables of letters and of their small forms. -/
def slugWith (kept : Char → Bool) (lower : Char → List Char) (name : String) : String :=
  match slugChars kept lower false false name.toList with
  | [] => "section"
  | cs => String.ofList cs

/-- The slug of a name; a name without letters and digits has the slug of a nameless section. -/
def slugify (name : String) : String := slugWith isAlphanumeric lowerChar name

/-- A page of the document. -/
structure Section where
  id : String
  name : String
  slug : String
  isHome : Bool
  elements : Forest

/-- The sections of a document by key. -/
abbrev Sections := SortedMap Section

namespace Section

/-- A section without elements. Its slug comes from its name. -/
def new (id name : String) : Section := ⟨id, name, slugify name, false, []⟩

def home (id name : String) : Section := { Section.new id name with isHome := true }

/-- Equality, with numbers compared as numbers. -/
def same (a b : Section) : Bool :=
  a.id == b.id && a.name == b.name && a.slug == b.slug && a.isHome == b.isHome &&
    Forest.same a.elements b.elements

def toJson (s : Section) : Json :=
  .obj [("id", .str s.id), ("name", .str s.name), ("slug", .str s.slug), ("isHome", .bool s.isHome),
    ("elements", Forest.toJson s.elements)]

/-- The names of a section's fields, in order. -/
def fieldNames : List String := ["id", "name", "slug", "isHome", "elements"]

/-- The parts of a section's record that count. -/
def outline : Json.Outline := .fields fieldNames [("elements", .each Element.outline)]

/-- The section that a JSON record describes, with types as `readType` reads them. -/
def ofJsonWith? (readType : Json → Option ElementType) (j : Json) : Option Section := do
  let f ← j.fields? fieldNames
  return {
    id := ← f.required "id" Json.str?
    name := ← f.required "name" Json.str?
    slug := ← f.required "slug" Json.str?
    isHome := ← f.defaulted "isHome" false Json.bool?
    elements := ← f.defaulted "elements" [] (Forest.ofJsonWith? readType) }

/-- The section that a JSON record describes. -/
def ofJson? : Json → Option Section := ofJsonWith? ElementType.ofJson?

end Section

/-- Unmarks every home section after the first; `seen` tells that one came before. -/
def keepFirstHome (seen : Bool) : List (String × Section) → List (String × Section)
  | [] => []
  | (k, s) :: rest =>
    (k, { s with isHome := s.isHome && !seen }) :: keepFirstHome (seen || s.isHome) rest

/-- Marks the first section. -/
def markFirst : List (String × Section) → List (String × Section)
  | [] => []
  | (k, s) :: rest => (k, { s with isHome := true }) :: rest

theorem keepFirstHome_keys (seen : Bool) (entries : List (String × Section)) :
    (keepFirstHome seen entries).map Prod.fst = entries.map Prod.fst := by
  induction entries generalizing seen with
  | nil => rfl
  | cons e rest ih => simp [keepFirstHome, ih]

theorem markFirst_keys (entries : List (String × Section)) :
    (markFirst entries).map Prod.fst = entries.map Prod.fst := by
  cases entries <;> rfl

/-- The order of entries depends on their keys alone. -/
theorem ascending_of_keys {α β : Type} {a : List (String × α)} {b : List (String × β)}
    (hk : a.map Prod.fst = b.map Prod.fst) (h : Ascending b) : Ascending a := by
  have hb : (b.map Prod.fst).Pairwise (· < ·) := List.pairwise_map.2 h
  exact List.pairwise_map.1 (hk ▸ hb)

namespace Sections

/-- The map with exactly one section marked home: the first marked one by key, or the first one when
none is marked. -/
def withSingleHome (m : Sections) : Sections :=
  if m.values.any Section.isHome then
    ⟨keepFirstHome false m.entries, ascending_of_keys (keepFirstHome_keys _ _) m.ascending⟩
  else ⟨markFirst m.entries, ascending_of_keys (markFirst_keys _) m.ascending⟩

/-- The home section: the first marked one, or the first one when none is marked. -/
def home? (m : Sections) : Option Section :=
  (m.values.find? Section.isHome).or m.values.head?

/-- Sections marked home come first, then the rest; both in the order of their ids. -/
def before (a b : Section) : Bool :=
  if a.isHome = b.isHome then decide (a.id ≤ b.id) else a.isHome

/-- The sections in the order of the exported document. -/
def ordered (m : Sections) : List Section := m.values.mergeSort before

/-- Equality, with numbers compared as numbers. -/
def same (a b : Sections) : Bool := a.sameBy Section.same b

def toJson (m : Sections) : Json := .ofMap (m.mapValues fun _ s => s.toJson)

/-- The map that a JSON object describes, with types as `readType` reads them. Of two members with
one key the later one counts, but both have to be sections. -/
def ofJsonWith? (readType : Json → Option ElementType) : Json → Option Sections
  | .obj members =>
    (members.mapM fun m => (Section.ofJsonWith? readType m.2).map fun s => (m.1, s)).map
      SortedMap.ofList
  | _ => none

/-- The map that a JSON object describes. -/
def ofJson? : Json → Option Sections := ofJsonWith? ElementType.ofJson?

/-- The map that a JSON object in a payload describes. -/
def ofPayloadJson? : Json → Option Sections := ofJsonWith? ElementType.ofPayloadJson?

end Sections

end PageBuilder
