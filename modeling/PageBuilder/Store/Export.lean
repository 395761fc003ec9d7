import PageBuilder.Files.Directories
import PageBuilder.Store.Import

/-!
Writing a project to a backup. The targets are tried in order until one takes the backup and proves
to hold it; when none does, the failure gives one reason for each of them.
-/

namespace PageBuilder

/-- A project as it is written to a backup. -/
structure ExportedProject where
  project : ProjectRecord
  exportedAt : Instant
  exportVersion : String

namespace ExportedProject

def new (r : ProjectRecord) (now : Instant) : ExportedProject := ⟨r.stripped, now, "1.0"⟩

/-- The backup as JSON: the fields of the record and two more. -/
def toJson (x : ExportedProject) : Json :=
  .obj (x.project.toMembers ++ x.project.extra.entries ++
    [("exportedAt", x.exportedAt.toJson), ("exportVersion", .str x.exportVersion)])

/-- The names of the fields that a backup has besides the record's. -/
def fieldNames : List String := ["exportedAt", "exportVersion"]

/-- The backup that a JSON object describes. -/
def ofJson? (now : Instant) : Json → Option ExportedProject
  | .obj members => do
    let f ← Json.namedFields? fieldNames members
    let project ← ProjectRecord.ofJson? now
      (.obj (members.filter fun m => !fieldNames.contains m.1))
    return {
      project := project
      exportedAt := ← f.required "exportedAt" Instant.ofJson?
      exportVersion := ← f.required "exportVersion" Json.str? }
  | _ => none

def text (x : ExportedProject) : String := x.toJson.pretty

/-- The name of a backup without an ending: the slug of the project's name, and date and time. -/
def fileStem (x : ExportedProject) : String := slugify x.project.name ++ "-" ++ x.exportedAt.stamp

/-- Equality, with numbers compared as numbers. -/
def same (a b : ExportedProject) : Bool :=
  a.project.same b.project && a.exportedAt == b.exportedAt && a.exportVersion == b.exportVersion

end ExportedProject

/-- Where a backup ended up. -/
structure Delivery where
  sink : String
  location : String
  bytes : Nat
deriving DecidableEq, Repr

/-- A target of exports in a world of type `σ`. -/
structure ExportSink (σ : Type) where
  name : String
  /-- Takes a backup under the stem of its name, and leaves the world changed. -/
  deliver : (stem json : String) → σ → Except StoreError Delivery × σ
  /-- A delivery holds the backup. -/
  verify : Delivery → (json : String) → σ → Bool

namespace ExportSink

variable {σ τ : Type}

/-- A target in a part of a larger world. -/
def within (sink : ExportSink σ) (part : τ → σ) (replace : σ → τ → τ) : ExportSink τ where
  name := sink.name
  deliver stem json world :=
    let (result, changed) := sink.deliver stem json (part world)
    (result, replace changed world)
  verify delivery json world := sink.verify delivery json (part world)

/-- A target that writes a text made from the backup to a file in a directory. -/
def fileSink (name ending : String) (encode : String → String)
    (verify : (json written : String) → Bool) (dir : String) : ExportSink FileTree where
  name := name
  deliver stem json files :=
    let content := encode json
    let path := joinPath dir (stem ++ ending)
    match files.makeDirectories dir with
    | (.error e, files) => (.error (.exportFailed e.message), files)
    | (.ok (), files) =>
      match files.write path (.text content) with
      | .error e => (.error (.exportFailed e.message), files)
      | .ok files => (.ok ⟨name, path, content.utf8ByteSize⟩, files)
  verify delivery json files :=
    match files.readText delivery.location with
    | .ok written => verify json written
    | .error _ => false

def jsonFile (dir : String) : ExportSink FileTree :=
  fileSink "json-file" ".json" id (fun json written => written == json) dir

/-- A file with a data URI in a directory. -/
def base64File (dir : String) : ExportSink FileTree :=
  fileSink "base64-file" ".b64" toDataUri
    (fun json written =>
      match ofDataUri written with
      | .ok decoded => decoded == json
      | .error _ => false)
    dir

/-- A target that appends the backup to a text. It is not read again. -/
def writer (label : String) : ExportSink String where
  name := "writer"
  deliver _ json written := (.ok ⟨"writer", label, json.utf8ByteSize⟩, written ++ json)
  verify _ _ _ := true

/-- The files of an export to a directory, the best one first. -/
def directory (dir : String) : List (ExportSink FileTree) := [jsonFile dir, base64File dir]

/-- Tries targets in order. The first delivery that proves right counts; without one there is a
reason for each target. -/
def deliverTo (stem json : String) : List (ExportSink σ) → σ → Except (List String) Delivery × σ
  | [], world => (.error [], world)
  | sink :: rest, world =>
    let (result, world) := sink.deliver stem json world
    let next (reason : String) : Except (List String) Delivery × σ :=
      let (result, world) := deliverTo stem json rest world
      (result.mapError (reason :: ·), world)
    match result with
    | .ok delivery =>
      -- a target is believed only after its delivery has been read again
      if sink.verify delivery json world then (.ok delivery, world)
      else next (delivery.sink ++ ": written data did not verify")
    | .error e => next (sink.name ++ ": " ++ e.message)

end ExportSink

/-- Exports a record at a time to the first target that will do. -/
def exportProject {σ : Type} (sinks : List (ExportSink σ)) (r : ProjectRecord) (now : Instant)
    (world : σ) : Except StoreError Delivery × σ :=
  let x := ExportedProject.new r now
  match ExportSink.deliverTo x.fileStem x.text sinks world with
  | (.ok delivery, world) => (.ok delivery, world)
  | (.error reasons, world) =>
    let reasons := if reasons.isEmpty then ["no export targets configured"] else reasons
    (.error (.exportFailed (joinWith "; " reasons)), world)

end PageBuilder
