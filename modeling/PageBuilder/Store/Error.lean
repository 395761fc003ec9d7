import PageBuilder.Store.Backend
import PageBuilder.Store.Packed

/-!
Why projects cannot be stored, exported or imported, and how this is worded.
-/

namespace PageBuilder

/-- Why a text is no project. -/
inductive ImportError where
  /-- A text that starts like a data URI has no comma. -/
  | noPayload
  | unsupportedHeader (header : String)
  | badBase64
  /-- The bytes of the payload are not text. -/
  | notText
  | malformedJson
  | notObject
  | noName
  | noSections
  /-- Some part of the project has the wrong form. -/
  | malformedProject
deriving DecidableEq, Repr

def ImportError.reason : ImportError → String
  | .noPayload => "data URI has no payload"
  | .unsupportedHeader header => "unsupported data URI header " ++ quoted header
  | .badBase64 => "bad base64"
  | .notText => "payload is not UTF-8"
  | .malformedJson => "malformed JSON"
  | .notObject => "expected a JSON object"
  | .noName => "missing project name"
  | .noSections => "missing sections"
  | .malformedProject => "malformed project"

/-- Why a store operation fails. -/
inductive StoreError where
  /-- The record does not fit the backend, even alone. -/
  | capacityExhausted (id : String) (bytes : Nat)
  | invalidImport (e : ImportError)
  | exportFailed (reason : String)
  | unreadable (e : DecodeError)
  | backend (e : BackendError)
deriving DecidableEq, Repr

namespace StoreError

def message : StoreError → String
  | .capacityExhausted id bytes =>
    "Storage is full: could not save project " ++ id ++ " (" ++ toString bytes ++
      " bytes) even after clearing other projects"
  | .invalidImport e => "Invalid import: " ++ e.reason
  | .exportFailed reason => "Export failed on every target: " ++ reason
  | .unreadable e => e.message
  | .backend e => e.message

/-- The wording of a failure and of what caused it, outermost first. -/
def messages (e : StoreError) : List String :=
  match e with
  | .unreadable .noRecord => [e.message, DecodeError.noRecord.detail]
  | .backend (.file f) => [e.message, f.message]
  | _ => [e.message]

end StoreError

end PageBuilder
