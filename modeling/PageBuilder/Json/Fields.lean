import PageBuilder.Json.Basic
import PageBuilder.Json.Outline

/-!
Records in JSON: a record is an object of named fields, or the list of its fields in their order.
Names that the record does not know are passed over; a known name must not come twice.
-/

namespace PageBuilder.Json

/-- The fields of a record. `listed` tells that they came as a list rather than by name. -/
structure Fields where
  listed : Bool
  values : List (String × Json)

def distinctNames (members : List (String × Json)) : Bool :=
  match members with
  | [] => true
  | (k, _) :: rest => !(rest.any fun m => m.1 == k) && distinctNames rest

/-- The fields of an object that are among `names`. -/
def namedFields? (names : List String) (members : List (String × Json)) : Option Fields :=
  let known := members.filter fun m => names.contains m.1
  if distinctNames known then some ⟨false, known⟩ else none

/-- The fields of a record with the given field names. -/
def fields? (names : List String) : Json → Option Fields
  | .obj members => namedFields? names members
  | .arr items => if items.length ≤ names.length then some ⟨true, names.zip items⟩ else none
  | _ => none

/-- The members of an object that are not among `names`, as a map. -/
def otherFields (names : List String) : Json → SortedMap Json
  | .obj members => .ofList (canonicalMembers (members.filter fun m => !names.contains m.1))
  | _ => .empty

namespace Fields

variable {α : Type}

def required (f : Fields) (name : String) (read : Json → Option α) : Option α :=
  (f.values.lookup name).bind read

/-- A field that has a value when it is missing; `null` is no value. -/
def defaulted (f : Fields) (name : String) (default : α) (read : Json → Option α) : Option α :=
  match f.values.lookup name with
  | some j => read j
  | none => some default

/-- A field whose value is `null` when there is none. By name it may be missing as well. -/
def optional (f : Fields) (name : String) (read : Json → Option α) : Option (Option α) :=
  match f.values.lookup name with
  | some .null => some none
  | some j => (read j).map some
  | none => if f.listed then none else some none

/-- A field that may be missing or `null`, in a list of fields as well. -/
def optionalEnd (f : Fields) (name : String) (read : Json → Option α) : Option (Option α) :=
  match f.values.lookup name with
  | some .null => some none
  | some j => (read j).map some
  | none => some none

end Fields

/-- One of a fixed set of names: the name itself, or an object with it as its only key and `null`
as its value. -/
def name? : Json → Option String
  | .str s => some s
  | .obj [(s, .null)] => some s
  | _ => none

/-- The same, where the value beside the key may be an object without members, too. -/
def looseName? : Json → Option String
  | .obj [(s, .obj [])] => some s
  | j => j.name?

end PageBuilder.Json
