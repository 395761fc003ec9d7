import PageBuilder.Files.Entry
import PageBuilder.SortedMap
import PageBuilder.Text.Cut
import PageBuilder.Text.Printable

/-!
Key-value backends with an optional hard limit on the stored bytes. One keeps its values in a map,
the other in a directory with one file for each key; both list their keys in ascending order.
-/

namespace PageBuilder

/-- Why a backend refuses an operation. -/
inductive BackendError where
  | quotaExceeded (key : String) (needed available : Nat)
  | invalidKey (key : String)
  /-- The file of the key is out of reach. -/
  | file (e : FileError)
deriving DecidableEq, Repr

def BackendError.message : BackendError → String
  | .quotaExceeded key needed available =>
    "Quota exceeded writing " ++ key ++ ": " ++ toString needed ++ " bytes needed, " ++
      toString available ++ " available"
  | .invalidKey key => "Invalid storage key: " ++ quoted key
  | .file e => "IO error: " ++ e.message

/-- Storage of values by key. A refused operation changes nothing. -/
class Backend (β : Type) where
  /-- The value of a key. -/
  get : β → String → Except BackendError (Option Blob)
  /-- Sets the value of a key. -/
  set : β → String → Blob → Except BackendError β
  /-- Removes a key, and tells whether it was there. -/
  remove : β → String → Except BackendError (Bool × β)
  /-- All keys in ascending order. -/
  keys : β → List String
  /-- The bytes of all values. -/
  usage : β → Nat

/-- Values of `needed` bytes fit beside `usage` others. -/
def checkQuota (quota : Option Nat) (key : String) (usage needed : Nat) :
    Except BackendError Unit :=
  match quota with
  | some quota =>
    if quota < usage + needed then .error (.quotaExceeded key needed (quota - usage)) else .ok ()
  | none => .ok ()

/-- The bytes of all values of a map. -/
def totalSize (m : SortedMap Blob) : Nat := total (m.values.map Blob.size)

/-- The bytes that a key's value takes up. -/
def sizeAt (m : SortedMap Blob) (key : String) : Nat := ((m.get? key).map Blob.size).getD 0

/-- A backend in memory. -/
structure MemoryBackend where
  entries : SortedMap Blob
  quota : Option Nat

namespace MemoryBackend

def new (quota : Option Nat) : MemoryBackend := ⟨.empty, quota⟩

/-- Sets the value of a key, if all values fit the quota then. -/
def set (b : MemoryBackend) (key : String) (value : Blob) : Except BackendError MemoryBackend := do
  checkQuota b.quota key (totalSize b.entries - sizeAt b.entries key) value.size
  return { b with entries := b.entries.insert key value }

instance : Backend MemoryBackend where
  get b key := .ok (b.entries.get? key)
  set := set
  remove b key := .ok (b.entries.contains key, { b with entries := b.entries.erase key })
  keys b := b.entries.keys
  usage b := totalSize b.entries

end MemoryBackend

/-- A backend in a directory, given by what stands there under each name. Names may have a limit on
their bytes. -/
structure FileBackend where
  files : SortedMap FileEntry
  quota : Option Nat
  nameLimit : Option Nat

namespace FileBackend

/-- Characters that a key may have in a file name. -/
def isKeyChar (c : Char) : Bool := c.isAlphanum || c = '-' || c = '_' || c = '.'

/-- A key that can be part of a file name. -/
def validKey (key : String) : Bool :=
  !key.isEmpty && key.toList.head? != some '.' && key.toList.all isKeyChar

def fileName (key : String) : String := key ++ ".bin"

/-- The name of the file that a value is written to before it takes its place. -/
def draftName (key : String) : String := key ++ ".tmp"

/-- The name of a key's file, if the key can be part of one. -/
def fileName? (key : String) : Except BackendError String :=
  if validKey key then .ok (fileName key) else .error (.invalidKey key)

/-- The key of a file, if it is the file of one. -/
def keyOfFile? (name : String) : Option String :=
  match beforeBack? ".bin".toList name.toList with
  | some key => if key.isEmpty then none else some (String.ofList key)
  | none => none

/-- What stands in the directory under the name of a key's file, by key. -/
def entries (b : FileBackend) : SortedMap FileEntry :=
  .ofList (b.files.entries.filterMap fun f => (keyOfFile? f.1).map fun key => (key, f.2))

/-- The bytes of all values. -/
def usage (b : FileBackend) : Nat := total (b.entries.values.map FileEntry.size)

/-- What the file of a name holds, if there is one. The name may belong to a directory, or be too
long for the files of this one. -/
def value? (b : FileBackend) (name : String) : Except BackendError (Option Blob) :=
  if b.nameLimit.any fun limit => limit < name.utf8ByteSize then .error (.file .nameTooLong)
  else
    match b.files.get? name with
    | none => .ok none
    | some entry => (entry.contents.map some).mapError .file

def get (b : FileBackend) (key : String) : Except BackendError (Option Blob) := do
  b.value? (← fileName? key)

/-- Sets the value of a key, if all values fit the quota then. A draft that was left behind is gone
afterwards. -/
def set (b : FileBackend) (key : String) (value : Blob) : Except BackendError FileBackend := do
  let name ← fileName? key
  let replaced := ((b.files.get? name).map FileEntry.size).getD 0
  checkQuota b.quota key (b.usage - replaced) value.size
  -- the draft is written first and takes the place of the file after that
  let _ ← b.value? (draftName key)
  let _ ← b.value? name
  return { b with files := (b.files.erase (draftName key)).insert name (.file value) }

def remove (b : FileBackend) (key : String) : Except BackendError (Bool × FileBackend) := do
  let name ← fileName? key
  return ((← b.value? name).isSome, { b with files := b.files.erase name })

instance : Backend FileBackend where
  get := get
  set := set
  remove := remove
  keys b := b.entries.keys
  usage := usage

end FileBackend

end PageBuilder
