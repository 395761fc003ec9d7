import PageBuilder.Files.Tree

/-!
Making directories. One is made in a directory that is there; a whole path of them is made from the
outermost missing one on, and what was made stays when a later one is refused.
-/

namespace PageBuilder.FileTree

/-- Makes the directory that steps lead to. Steps that do not end with a name lead to one that is
there already. -/
def makeAt (t : FileTree) (steps : List String) : Except FileError FileTree := do
  let (parent, name) ← t.parent steps
  if isIdleStep name || name = ".." then throw .alreadyExists
  let place ← t.step parent name
  if (t.entry? place).isSome then throw .alreadyExists
  return t.set place .directory

def isDirectoryAt (t : FileTree) (steps : List String) : Bool :=
  match (t.follow steps).toOption.bind t.entry? with
  | some .directory => true
  | _ => false

/-- Makes the directory that steps lead to, unless it is there. -/
def ensureAt (t : FileTree) (steps : List String) : Except FileError Unit × FileTree :=
  match t.makeAt steps with
  | .ok made => (.ok (), made)
  | .error e => (if e = .alreadyExists && t.isDirectoryAt steps then .ok () else .error e, t)

/-- Makes the directory that steps lead to; when the way to it is missing, `makeOuter` makes that
first. -/
def ensureWithin (t : FileTree) (steps : List String)
    (makeOuter : FileTree → Except FileError Unit × FileTree) : Except FileError Unit × FileTree :=
  match t.ensureAt steps with
  | (.error .notFound, t) =>
    match makeOuter t with
    | (.ok (), t) => t.ensureAt steps
    | refused => refused
  | result => result

/-- Makes the directories that steps, given from the last one, lead through. -/
def ensureAll (t : FileTree) : (back : List String) → Except FileError Unit × FileTree
  | [] => (.ok (), t)
  | name :: back =>
    if isIdleStep name then t.ensureAll back
    else t.ensureWithin (name :: back).reverse fun t => t.ensureAll back

/-- Makes the directory at a path and all that are missing on the way to it. The path itself is
tried as it is written, with a step to the same place at its end; the way to it ends before its last
name. -/
def makeDirectories (t : FileTree) (path : String) : Except FileError Unit × FileTree :=
  match checkPath path with
  | .error e => (.error e, t)
  | .ok () =>
    let back := (pathSteps path).reverse.dropWhile isIdleStep
    t.ensureWithin (pathSteps (withoutEnd '/' path)) fun t => t.ensureAll back.tail

end PageBuilder.FileTree
