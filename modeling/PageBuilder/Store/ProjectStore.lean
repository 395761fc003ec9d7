import PageBuilder.Store.Config
import PageBuilder.Store.Error

/-!
A store of projects over a backend. Saving stamps the record and makes room for it: entries that
cannot be read go first, then the ones that were not updated for the longest time. Every operation
gives its result and the store after it, which has changed also where an operation fails half-way.
-/

namespace PageBuilder

/-- A stored entry, as far as making room looks at it. -/
structure StoredEntry where
  key : String
  bytes : Nat
  /-- The time of the last update, if the entry can be read. -/
  updatedAt : Option Instant
deriving DecidableEq, Repr

namespace StoredEntry

/-- An entry has to go no later than another. -/
def goesBefore (a b : StoredEntry) : Bool :=
  match a.updatedAt, b.updatedAt with
  | none, some _ => true
  | some _, none => false
  | none, none => a.key ≤ b.key
  | some s, some t => if s = t then a.key ≤ b.key else s.le t

end StoredEntry

/-- Numbers that a store knows about itself. -/
structure StoreStats where
  count : Nat
  /-- Records updated in the last seven days. -/
  recent : Nat
  totalBytes : Nat
  byteBudget : Nat
deriving DecidableEq, Repr

/-- A store of projects. -/
structure ProjectStore (β : Type) where
  backend : β
  config : StoreConfig
  /-- How records are packed. -/
  packing : Packing

namespace ProjectRecord

/-- The record as it is stored at a time under an id, over the record that was there. -/
def stamped (r : ProjectRecord) (id : String) (now : Instant) (previous : Option ProjectRecord) :
    ProjectRecord :=
  { r.stripped with
    id := id
    createdAt := (previous.map createdAt).getD now
    updatedAt := now
    version := wordAfter (((previous.map version).getD 0).max r.version) }

/-- The id that a record is stored under: its own, or a new one if that is empty. -/
def storageId (r : ProjectRecord) (now : Instant) : String :=
  if r.id.isEmpty then projectId r.name now else r.id

/-- A record stands no later in a list than another: the last updated first, then by id. -/
def listedBefore (a b : ProjectRecord) : Bool :=
  if a.updatedAt = b.updatedAt then a.id ≤ b.id else b.updatedAt.le a.updatedAt

end ProjectRecord

/-- The entries that have to go before `size` more bytes are stored, the first of a list. `usage`
and `count` are the bytes and the number of the entries in the list. -/
def evictions (c : StoreConfig) (size usage count : Nat) : List StoredEntry → List StoredEntry
  | [] => []
  | e :: rest =>
    if c.byteBudget < usage + size || c.maxRecords ≤ count then
      e :: evictions c size (usage - e.bytes) (count - 1) rest
    else []

namespace ProjectStore

variable {β : Type} [Backend β]

/-- The values of some keys, without the keys that have none. -/
def valuesAt (b : β) : List String → Except BackendError (List (String × Blob))
  | [] => .ok []
  | key :: rest => do
    let value ← Backend.get b key
    let others ← valuesAt b rest
    return match value with
      | some v => (key, v) :: others
      | none => others

/-- Removes some keys one after the other, as far as the backend allows. -/
def removeAll (b : β) : List String → Except BackendError Unit × β
  | [] => (.ok (), b)
  | key :: rest =>
    match Backend.remove b key with
    | .ok (_, b) => removeAll b rest
    | .error e => (.error e, b)

/-- The keys of a backend but one. -/
def otherKeys (b : β) (id : String) : List String := (Backend.keys b).filter (· != id)

/-- The entries of a backend but one, in the order in which they go. -/
def otherEntries (p : Packing) (b : β) (now : Instant) (id : String) :
    Except BackendError (List StoredEntry) := do
  let values ← valuesAt b (otherKeys b id)
  let entries := values.map fun v =>
    ⟨v.1, v.2.size, (ProjectRecord.decode? p now v.2).map ProjectRecord.updatedAt⟩
  return entries.mergeSort StoredEntry.goesBefore

/-- Removes other entries until a value of `size` bytes fits the limits of the store. -/
def makeRoom (c : StoreConfig) (p : Packing) (b : β) (now : Instant) (id : String) (size : Nat) :
    Except BackendError Unit × β :=
  match otherEntries p b now id with
  | .error e => (.error e, b)
  | .ok others =>
    -- the entry that is replaced counts for nothing: its bytes are given back
    let usage := total (others.map StoredEntry.bytes)
    removeAll b ((evictions c size usage others.length others).map StoredEntry.key)

/-- Sets a value. If it does not fit the backend, all other values are removed first. -/
def place (b : β) (id : String) (value : Blob) : Except StoreError Unit × β :=
  match Backend.set b id value with
  | .ok b => (.ok (), b)
  | .error (.quotaExceeded _ _ _) =>
    match removeAll b (otherKeys b id) with
    | (.error e, b) => (.error (.backend e), b)
    | (.ok (), b) =>
      match Backend.set b id value with
      | .ok b => (.ok (), b)
      | .error (.quotaExceeded _ _ _) => (.error (.capacityExhausted id value.size), b)
      | .error e => (.error (.backend e), b)
  | .error e => (.error (.backend e), b)

/-- A record in the form that a store keeps it in. -/
def encoded (s : ProjectStore β) (r : ProjectRecord) : Blob :=
  r.encode s.packing s.config.compressionLevel

/-- The record that a value in a store holds, if it holds one. -/
def decoded? (s : ProjectStore β) (now : Instant) (value : Blob) : Option ProjectRecord :=
  ProjectRecord.decode? s.packing now value

/-- Saves a record, and gives it as it is stored. What stood under its id before lends it the time
it was made and a lower bound of its version. -/
def save (s : ProjectStore β) (now : Instant) (r : ProjectRecord) :
    Except StoreError ProjectRecord × ProjectStore β :=
  let id := r.storageId now
  match Backend.get s.backend id with
  | .error e => (.error (.backend e), s)
  | .ok before =>
    let stored := r.stamped id now (before.bind (s.decoded? now))
    let value := s.encoded stored
    match makeRoom s.config s.packing s.backend now id value.size with
    | (.error e, b) => (.error (.backend e), { s with backend := b })
    | (.ok (), b) =>
      let (result, b) := place b id value
      (result.map fun _ => stored, { s with backend := b })

/-- The record under an id, if there is an entry. -/
def load (s : ProjectStore β) (now : Instant) (id : String) :
    Except StoreError (Option ProjectRecord) :=
  match Backend.get s.backend id with
  | .error e => .error (.backend e)
  | .ok none => .ok none
  | .ok (some value) =>
    match ProjectRecord.decode s.packing now value with
    | .ok r => .ok (some r)
    | .error e => .error (.unreadable e)

/-- All records that can be read, the last updated first. -/
def list (s : ProjectStore β) (now : Instant) : Except StoreError (List ProjectRecord) :=
  match valuesAt s.backend (Backend.keys s.backend) with
  | .error e => .error (.backend e)
  | .ok values =>
    .ok ((values.filterMap fun v => s.decoded? now v.2).mergeSort ProjectRecord.listedBefore)

/-- Removes an entry, and tells whether it was there. -/
def delete (s : ProjectStore β) (id : String) : Except StoreError (Bool × ProjectStore β) :=
  match Backend.remove s.backend id with
  | .ok (found, b) => .ok (found, { s with backend := b })
  | .error e => .error (.backend e)

/-- The records that match a query, the last updated first. -/
def search (s : ProjectStore β) (now : Instant) (query : String) :
    Except StoreError (List ProjectRecord) :=
  (s.list now).map fun records => records.filter fun r => r.isMatch query

/-- The numbers of the store at a time. -/
def stats (s : ProjectStore β) (now : Instant) : Except StoreError StoreStats :=
  (s.list now).map fun records =>
    { count := records.length
      recent := records.countP fun r => (now.daysBefore 7).le r.updatedAt
      totalBytes := Backend.usage s.backend
      byteBudget := s.config.byteBudget }

end ProjectStore

end PageBuilder
