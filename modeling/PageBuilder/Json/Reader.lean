import PageBuilder.Json.Outline
import PageBuilder.Json.Scalar

/-!
Reading JSON text, strictly: nothing but white space may follow the value, no comma trails, and
lists and objects nest at most 127 deep. Members of an object are kept as written, repeated keys
included. A reader that is after some parts of the value only gives their outline: what it leaves
out has to be well formed, but may nest deeper and hold numbers and strings that have no value.
-/

namespace PageBuilder.Json

mutual

/-- What follows a value that does not count. -/
def skipValue : Nat → List Char → Option (List Char)
  | 0, _ => none
  | fuel + 1, cs =>
    match skipSpace cs with
    | [] => none
    | '"' :: rest => skipString rest
    | '[' :: rest =>
      match skipSpace rest with
      | ']' :: rest => some rest
      | rest => skipItems fuel rest
    | '\x7b' :: rest =>
      match skipSpace rest with
      | '\x7d' :: rest => some rest
      | rest => skipMembers fuel rest
    | 'n' :: rest => afterWord? "ull" rest
    | 't' :: rest => afterWord? "rue" rest
    | 'f' :: rest => afterWord? "alse" rest
    | rest => (writtenNumber? rest).map Prod.snd

/-- What follows the closing bracket of a nonempty list. -/
def skipItems : Nat → List Char → Option (List Char)
  | 0, _ => none
  | fuel + 1, cs => do
    match skipSpace (← skipValue fuel cs) with
    | ']' :: rest => return rest
    | ',' :: rest => skipItems fuel rest
    | _ => none

/-- What follows the closing brace of a nonempty object. -/
def skipMembers : Nat → List Char → Option (List Char)
  | 0, _ => none
  | fuel + 1, cs => do
    match skipSpace cs with
    | '"' :: rest =>
      match skipSpace (← skipString rest) with
      | ':' :: rest =>
        match skipSpace (← skipValue fuel rest) with
        | '\x7d' :: rest => return rest
        | ',' :: rest => skipMembers fuel rest
        | _ => none
      | _ => none
    | _ => none

end

mutual

/-- The outlined parts of a value, and what follows it. `room` is the number of levels that may
still open. -/
def readValue (outline : Outline) : Nat → Nat → List Char → Option (Json × List Char)
  | 0, _, _ => none
  | fuel + 1, room, cs =>
    match skipSpace cs with
    | [] => none
    | '"' :: rest => (stringBody rest).map fun r => (.str (String.ofList r.1), r.2)
    | '[' :: rest =>
      if room = 0 then none
      else
        match skipSpace rest with
        | ']' :: rest => some (.arr [], rest)
        | rest => (readItems outline fuel (room - 1) rest).map fun r => (.arr r.1, r.2)
    | '\x7b' :: rest =>
      if room = 0 then none
      else
        match skipSpace rest with
        | '\x7d' :: rest => some (.obj [], rest)
        | rest => (readMembers outline fuel (room - 1) rest).map fun r => (.obj r.1, r.2)
    | 'n' :: rest => (afterWord? "ull" rest).map fun r => (.null, r)
    | 't' :: rest => (afterWord? "rue" rest).map fun r => (.bool true, r)
    | 'f' :: rest => (afterWord? "alse" rest).map fun r => (.bool false, r)
    | rest => (readNumber? rest).map fun r => (.num r.1, r.2)

/-- The items of a nonempty list up to and including its closing bracket. -/
def readItems (outline : Outline) : Nat → Nat → List Char → Option (List Json × List Char)
  | 0, _, _ => none
  | fuel + 1, room, cs => do
    let (first, others) := outline.split
    let (item, cs) ← readValue first fuel room cs
    match skipSpace cs with
    | ']' :: rest => return ([item], rest)
    | ',' :: rest =>
      let (items, rest) ← readItems others fuel room rest
      return (item :: items, rest)
    | _ => none

/-- The members of a nonempty object up to and including its closing brace, as far as they
count. -/
def readMembers (outline : Outline) :
    Nat → Nat → List Char → Option (List (String × Json) × List Char)
  | 0, _, _ => none
  | fuel + 1, room, cs => do
    match skipSpace cs with
    | '"' :: rest =>
      let (key, rest) ← stringBody rest
      let key := String.ofList key
      match skipSpace rest with
      | ':' :: rest =>
        let (member, rest) ←
          match outline.member? key with
          | some part => (readValue part fuel room rest).map fun r => ([(key, r.1)], r.2)
          | none => (skipValue fuel rest).map fun rest => ([], rest)
        match skipSpace rest with
        | '\x7d' :: rest => return (member, rest)
        | ',' :: rest =>
          let (members, rest) ← readMembers outline fuel room rest
          return (member ++ members, rest)
        | _ => none
      | _ => none
    | _ => none

end

/-- The outlined parts of the value that a text denotes, as written. Every level of the reader uses
up a character, so that the length of the text bounds the recursion. -/
def readOutlined? (outline : Outline) (s : String) : Option Json :=
  let cs := s.toList
  match readValue outline (2 * cs.length + 2) maxNesting cs with
  | some (j, rest) => if (skipSpace rest).isEmpty then some j else none
  | none => none

/-- The value that a text denotes, as written. -/
def read? (s : String) : Option Json := readOutlined? .whole s

/-- The canonical value that a text denotes. -/
def parse? (s : String) : Option Json := (read? s).map canonical

end PageBuilder.Json
