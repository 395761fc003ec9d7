import PageBuilder.Html.Document
import PageBuilder.Workspace.ProjectFile

/-!
Exporting project files as documents: one file or all files below a directory, into a directory or
to the output; and exporting one file for a look at it.
-/

namespace PageBuilder

/-- What to export, and how. -/
structure CompileArguments where
  /-- A file or a directory; the configured directory when absent. -/
  path : Option String := none
  /-- Prints the documents. -/
  stdout : Bool := false
  /-- The directory for documents; the configured one when absent. -/
  outDir : Option String := none
  /-- Leaves line breaks and indents out. -/
  minify : Bool := false

/-- A file to export: its path, and the name it has in messages. -/
structure CompileInput where
  path : String
  shown : String
deriving DecidableEq, Repr

/-- The files to export for a path, if there is anything. -/
def compileInputs? (t : FileTree) (path : String) : Option (List CompileInput) :=
  match t.locate path with
  | .error _ => none
  | .ok place =>
    match t.entry? place with
    | none => none
    | some (.file _) => some [⟨path, ""⟩]
    | some .directory =>
      let inputs : List CompileInput := (projectFilesBelow t place).map fun names =>
        ⟨joinPath path (joinWith "/" names), joinWith "/" names⟩
      -- below a long path there are files that no path leads to
      some (inputs.filter fun input => t.isFile input.path)

/-- The path of the document of a project file. -/
def documentPath (outDir path : String) : String := joinPath outDir (projectStem path ++ ".html")

/-- The options for the document of a project. -/
def documentOptions (config : SiteConfig) (minify : Bool) (r : ProjectRecord) : ExportOptions :=
  { config.export_.options r.name with pretty := !minify }

namespace Task

/-- The document of a project. -/
def document (r : ProjectRecord) (options : ExportOptions) : Task String :=
  match compileDocument r.sections options with
  | .ok html => pure html
  | .error e => throw (.compile e)

/-- Exports one file, and tells where to. -/
def compileFile (env : Environment) (config : SiteConfig) (args : CompileArguments)
    (outDir path : String) : Task String := do
  if !isProjectPath path && !isJsonPath path then throw .notProjectFile
  let r ← readProject env path
  let html ← document r (documentOptions config args.minify r)
  if args.stdout then
    say html
    return "stdout"
  else
    makeDirectories .file outDir
    let target := documentPath outDir path
    writeText .file target html
    return target

/-- Exports files one after the other, and counts the ones that failed. -/
def compileAll (env : Environment) (config : SiteConfig) (args : CompileArguments)
    (outDir : String) : List CompileInput → Task Nat
  | [] => return 0
  | input :: rest => do
    -- a file that fails does not stop the ones after it
    match ← attempt (compileFile env config args outDir input.path) with
    | .ok target =>
      if !args.stdout then say ("  ✓ " ++ input.shown ++ " → " ++ target)
      compileAll env config args outDir rest
    | .error e =>
      warn ("  ✗ " ++ input.shown ++ " - " ++ e.headline)
      return (← compileAll env config args outDir rest) + 1

/-- Exports a file or all files below a directory. It fails at the end if one of them failed. -/
def compile (env : Environment) (args : CompileArguments) : Task Unit := do
  let config ← config env
  let input := env.path (args.path.getD config.srcDir)
  let some inputs := compileInputs? (← files) input | throw (.noSuchPath input)
  if inputs.isEmpty then say "⚠️  No .page.json files found"
  else
    if !args.stdout then
      say "🔨 Compiling Pagesmith projects..."
      say ("Found " ++ toString inputs.length ++ " files")
    let outDir := env.path (args.outDir.getD config.outDir)
    let failed ← compileAll env config args outDir inputs
    let done := inputs.length - failed
    if !args.stdout then
      say ""
      if failed = 0 then say ("✅ Compiled " ++ toString done ++ " projects successfully")
      else
        say ("⚠️ Compiled " ++ toString done ++ " projects, " ++ toString failed ++ " errors")
    if failed ≠ 0 then throw (.someFailed failed)

/-- Exports one file into the directory for temporary files. -/
def preview (env : Environment) (file : String) : Task Unit := do
  let config ← config env
  let r ← readProject env (env.path file)
  let html ← document r (config.export_.options r.name)
  let path := joinPath env.tempDir (previewFileName html)
  writeText .file path html
  say "👀 Preview written"
  say ("   " ++ path)
  say "   Open it in a browser to try the exported page."

end Task

end PageBuilder
