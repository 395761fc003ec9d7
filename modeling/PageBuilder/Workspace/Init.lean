import PageBuilder.Workspace.ProjectFile

/-!
Setting up a directory: a starter project and a settings file. What is there already stays, the
settings file as well unless it may be replaced.
-/

namespace PageBuilder

/-- What to set up. -/
structure InitArguments where
  name : String := "My Site"
  srcDir : String := "pages"
  /-- Replaces a settings file that is there. -/
  force : Bool := false

/-- The name of the file with the starter project. -/
def starterFileName : String := "home" ++ projectEnding

/-- A project with a home section and a contact section. -/
def starterProject (name : String) (now : Instant) : ProjectRecord :=
  let heading := (((Element.new "home-heading" .heading).withProp "content" (.str "Hello World")
    ).withProp "level" (.int 1)).withPosition ⟨80.0, 80.0⟩ |>.withSize ⟨.auto, .auto⟩
  let button := (((Element.new "home-cta" .button).withProp "text" (.str "Contact us")
    ).withProp "sectionId" (.str "contact")).withPosition ⟨80.0, 200.0⟩
  let form := ((Element.new "contact-form" .contactForm).withProp "title" (.str "Get in touch")
    ).withPosition ⟨80.0, 80.0⟩
  let home := { Section.home "home" "Home" with elements := [heading, button] }
  let contact := { Section.new "contact" "Contact" with elements := [form] }
  .new name (.ofList [(home.id, home), (contact.id, contact)]) now

namespace Task

def init (env : Environment) (args : InitArguments) : Task Unit := do
  let configPath := env.path configFileName
  if (← files).hasPath configPath && !args.force then
    say ("⚠️ " ++ configFileName ++ " already exists")
    say "Use --force to overwrite"
  else
    say "📝 Initializing Pagesmith project..."
    let config : SiteConfig := { srcDir := args.srcDir }
    let srcDir := env.path config.srcDir
    if !(← files).hasPath srcDir then
      makeDirectories .file srcDir
      say ("  ✓ Created " ++ args.srcDir ++ "/")
    let projectPath := joinPath srcDir starterFileName
    if !(← files).hasPath projectPath then
      writeProject projectPath (starterProject args.name env.now)
      say ("  ✓ Created " ++ starterFileName)
    writeText .file configPath config.toJson.pretty
    say ("  ✓ Created " ++ configFileName)
    say ""
    say "✅ Project initialized!"
    say ""
    say "Next steps:"
    say ("  1. Edit " ++ args.srcDir ++ "/" ++ starterFileName)
    say "  2. Run: pagesmith compile"
    say ("  3. Check output in " ++ config.outDir ++ "/")

end Task

end PageBuilder
