import PageBuilder.Files.Entry
import PageBuilder.Files.Path
import PageBuilder.SortedMap

/-!
A tree of directories and files, kept as a map from the names on the way to what stands there. An
operation follows a path step by step, as far as directories lead.
-/

namespace PageBuilder

/-- A tree of directories and files. Entries are keyed by their names from the root, each after a
slash; the root itself has no entry. -/
structure FileTree where
  entries : SortedMap FileEntry

namespace FileTree

def empty : FileTree := ⟨.empty⟩

/-- The key of an entry. -/
def keyOf (names : List String) : String := concatTexts (names.map ("/" ++ ·))

/-- What stands at a list of names from the root. -/
def entry? (t : FileTree) (names : List String) : Option FileEntry :=
  if names.isEmpty then some .directory else t.entries.get? (keyOf names)

/-- A place is a directory, so that steps can lead on from it. -/
def enter (t : FileTree) (place : List String) : Except FileError Unit :=
  match t.entry? place with
  | none => .error .notFound
  | some (.file _) => .error .notDirectory
  | some .directory => .ok ()

/-- Where a step leads from a place. A name may lead to nothing: only the next step needs it to be
there. -/
def step (t : FileTree) (place : List String) (name : String) : Except FileError (List String) := do
  t.enter place
  if isIdleStep name then return place
  else if name = ".." then return place.dropLast
  else if longestName < name.utf8ByteSize then throw .nameTooLong
  else return place ++ [name]

/-- Where steps lead from the root. All but the last one have to be there. -/
def follow (t : FileTree) (steps : List String) : Except FileError (List String) :=
  steps.foldlM t.step []

/-- Where a path leads from the root. All but its last step have to be there. -/
def locate (t : FileTree) (path : String) : Except FileError (List String) := do
  checkPath path
  t.follow (pathSteps path)

/-- The directory that steps lead to before the last one, which is given as well. -/
def parent (t : FileTree) (steps : List String) : Except FileError (List String × String) := do
  let place ← t.follow steps.dropLast
  t.enter place
  return (place, steps.getLast?.getD "")

def lookup (t : FileTree) (path : String) : Except FileError FileEntry := do
  let place ← t.locate path
  match t.entry? place with
  | some entry => return entry
  | none => throw .notFound

def hasPath (t : FileTree) (path : String) : Bool :=
  match t.lookup path with
  | .ok _ => true
  | .error _ => false

def isFile (t : FileTree) (path : String) : Bool :=
  match t.lookup path with
  | .ok (.file _) => true
  | _ => false

def readText (t : FileTree) (path : String) : Except FileError String := do
  match (← (← t.lookup path).contents).text? with
  | some s => return s
  | none => throw .notText

def set (t : FileTree) (place : List String) (entry : FileEntry) : FileTree :=
  ⟨t.entries.insert (keyOf place) entry⟩

/-- Writes a file in a directory that is there, in place of the one before. A path with a slash at
its end can only be a directory's. -/
def write (t : FileTree) (path : String) (contents : Blob) : Except FileError FileTree := do
  checkPath path
  let (parent, name) ← t.parent (pathSteps (withoutEnd '/' path))
  if endsWith path "/" then throw .isDirectory
  let place ← t.step parent name
  match t.entry? place with
  | some .directory => throw .isDirectory
  | _ => return t.set place (.file contents)

/-- The names that lead to an entry from a place above it. -/
def namesBelow? (place : List String) (key : String) : Option (List String) :=
  (afterFront? ((keyOf place).toList ++ ['/']) key.toList).map fun rest =>
    (splitOnChar '/' rest).map String.ofList

/-- The files below a place, each with the names that lead to it, in order of these names. -/
def filesBelow (t : FileTree) (place : List String) : List (List String × Blob) :=
  (t.entries.entries.filterMap fun e =>
    match e.2, namesBelow? place e.1 with
    | .file contents, some names => some (names, contents)
    | _, _ => none).mergeSort fun a b => namesLe a.1 b.1

/-- What stands in a directory, by name. -/
def entriesIn (t : FileTree) (place : List String) : SortedMap FileEntry :=
  .ofList (t.entries.entries.filterMap fun e =>
    match namesBelow? place e.1 with
    | some [name] => some (name, e.2)
    | _ => none)

/-- The tree with other entries in a directory. What lies below them stays. -/
def withEntriesIn (t : FileTree) (place : List String) (entries : SortedMap FileEntry) : FileTree :=
  let kept := t.entries.filter fun key _ =>
    match namesBelow? place key with
    | some [_] => false
    | _ => true
  entries.entries.foldl (fun t e => t.set (place ++ [e.1]) e.2) ⟨kept⟩

end FileTree

end PageBuilder
