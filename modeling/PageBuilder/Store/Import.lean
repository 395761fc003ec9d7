import PageBuilder.Bytes
import PageBuilder.Store.Error

/-!
Reading a project from a backup: its JSON, or the data URI of its JSON. Reading a data URI gives back
the text it was made from.
-/

namespace PageBuilder

/-- What the data URI of a project starts with. -/
def dataUriHead : String := "data:application/json;base64,"

def toDataUri (s : String) : String :=
  dataUriHead ++ String.ofList (base64Encode s.toUTF8.toList)

/-- The text of a data URI. Any type of data will do, if it is written in base64. -/
def ofDataUri (uri : String) : Except ImportError String :=
  match splitAtFirst? ',' (trim uri).toList with
  | none => .error .noPayload
  | some (head, payload) =>
    let head := String.ofList head
    if startsWith head "data:" && endsWith head ";base64" then
      match base64Decode? (trim (String.ofList payload)).toList with
      | none => .error .badBase64
      | some bytes =>
        match String.fromUTF8? ⟨bytes.toArray⟩ with
        | some s => .ok s
        | none => .error .notText
    else .error (.unsupportedHeader head)

def backupText (text : String) : Except ImportError String :=
  let text := trim text
  if startsWith text "data:" then ofDataUri text else .ok text

/-- The project in a backup, without what its producer attached. A blank id is replaced by a new
one. -/
def importProject (now : Instant) (text : String) : Except ImportError ProjectRecord := do
  let json ← backupText text
  let some value := Json.parse? json | throw .malformedJson
  let some members := value.members? | throw .notObject
  let some (.str _) := members.lookup "name" | throw .noName
  let some (.obj _) := members.lookup "sections" | throw .noSections
  let some r := ProjectRecord.ofJson? now value | throw .malformedProject
  -- a project that was never saved has no id yet
  let r := if (trim r.id).isEmpty then { r with id := projectId r.name now } else r
  return r.stripped

end PageBuilder
