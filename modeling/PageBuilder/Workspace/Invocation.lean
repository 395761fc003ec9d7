import PageBuilder.Workspace.Apply
import PageBuilder.Workspace.Compile
import PageBuilder.Workspace.Init
import PageBuilder.Workspace.SavedProjects

/-!
What the program can be asked for, and the answer to it.
-/

namespace PageBuilder

/-- A request to the program. -/
inductive Invocation where
  | init (args : InitArguments)
  | compile (args : CompileArguments)
  | preview (file : String)
  | apply (args : ApplyArguments)
  | store (command : StoreCommand)

def Invocation.task (env : Environment) : Invocation → Task Unit
  | .init args => Task.init env args
  | .compile args => Task.compile env args
  | .preview file => Task.preview env file
  | .apply args => Task.apply env args
  | .store command => Task.store env command

/-- The paths that a request reads, with everything below them. -/
def Invocation.sources (config : SiteConfig) : Invocation → List String
  | .init _ => []
  | .compile args => [args.path.getD config.srcDir]
  | .preview file => [file]
  | .apply args => [args.project, args.commands]
  | .store (.save file) | .store (.importFrom file) => [config.store.dir, file]
  | .store _ => [config.store.dir]

/-- The paths that a request writes to. -/
def Invocation.targets (config : SiteConfig) : Invocation → List String
  | .init args => [joinPath args.srcDir starterFileName]
  | .compile args => [args.outDir.getD config.outDir]
  | .apply args => args.output.toList
  | .store (.load id output) => [output.getD (id ++ projectEnding)]
  | .store (.exportTo _ dir _) => [dir]
  | _ => []

/-- Runs a request over files, and gives the failure, if there is one, and the console after it. -/
def Invocation.run (i : Invocation) (env : Environment) (files : FileTree) :
    Option Failure × Console :=
  match i.task env ⟨files, "", ""⟩ with
  | (.ok (), console) => (none, console)
  | (.error e, console) => (some e, console)

end PageBuilder
