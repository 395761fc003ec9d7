import PageBuilder.Proofs.Editor.Loading
import PageBuilder.Proofs.Workspace.Tasks
import PageBuilder.Workspace.Apply

/-!
What a script does to a project file. The sections that are written are those of a session in which
the project was loaded and the script was run; loading is a change of that session, so a script can
take it back, but nothing before it.
-/

namespace PageBuilder

theorem editSections_ok (config : EditorConfig) (key : String) (stepTime : Nat → Int)
    {sections : Sections} (h : sections.entries ≠ []) (payloads : List String) :
    editSections config key stepTime sections payloads =
      .ok (((Editor.new config key).step (stepTime 0) (.loadProject sections none)).2.runPayloads
        (timedPayloads stepTime payloads)) := by
  obtain ⟨loaded, hstep, -⟩ := Editor.new_loadProject config key (stepTime 0) h
  unfold editSections Editor.dispatch
  rw [hstep]
  rfl

/-- The first undo after a project is loaded takes back the load. -/
theorem undo_after_load (config : EditorConfig) (key : String) (loadedAt undoneAt : Int)
    {sections : Sections} (h : sections.entries ≠ []) {payload : String}
    (hundo : Command.ofPayload? payload = some .undo) :
    (((Editor.new config key).step loadedAt (.loadProject sections none)).2.runPayloads
      [(undoneAt, payload)]).2.state = (Editor.new config key).state := by
  obtain ⟨loaded, hstep, -, hroom, honto⟩ := Editor.new_loadProject config key loadedAt h
  have hlast : ¬ loaded.fromHere.OwnUndos ([] ++ [(undoneAt, payload)]) :=
    Editor.not_ownUndos_fromHere _ hundo
  have hbottom := Editor.runPayloads_onto_bottom ⟨(Editor.new config key).state, "Load project"⟩
    hroom (Editor.ownUndos_nil _) hlast
  rw [← honto] at hbottom
  rw [hstep]
  exact congrArg (fun x => x.2.state) hbottom

namespace Task

theorem onlyReads_scriptText (env : Environment) (source : String) :
    OnlyReads (scriptText env source) := by
  unfold scriptText
  split
  · exact onlyReads_pure _
  · exact onlyReads_readText _ _

theorem onlyPrints_reportResult (number : Nat) (result : Except EditError Outcome) :
    OnlyPrints (reportResult number result) := by
  unfold reportResult
  split <;> exact fun _ => ⟨_, _, rfl⟩

theorem onlyPrints_reportResults (results : List (Except EditError Outcome)) (number : Nat) :
    OnlyPrints (reportResults number results) := by
  induction results generalizing number with
  | nil => exact fun _ => ⟨_, _, rfl⟩
  | cons result rest ih => exact (onlyPrints_reportResult number result).bind (ih (number + 1))

/-- A report on a script changes nothing but the printed texts. -/
theorem report_then (headline summary : String) (results : List (Except EditError Outcome))
    (next : Task Unit) (console : Console) :
    ∃ out err, (do
      say headline
      reportResults 1 results
      say ""
      say summary
      next) console = next ⟨console.files, out, err⟩ := by
  have hreport : OnlyPrints (do
      say headline
      reportResults 1 results
      say ""
      say summary) :=
    (onlyPrints_say headline).bind ((onlyPrints_reportResults results 1).bind
      ((onlyPrints_say "").bind (onlyPrints_say summary)))
  obtain ⟨out, err, hprinted⟩ := hreport console
  refine ⟨out, err, ?_⟩
  rw [← bind_of_ok (f := fun _ => next) hprinted]
  simp only [bind_assoc]

section Run

variable {env : Environment} {args : ApplyArguments} {console : Console} {config : SiteConfig}
  {r : ProjectRecord} {script : String} {payloads : List String}
  {results : List (Except EditError Outcome)} {edited : Editor}
  (hconfig : (Task.config env console).1 = .ok config)
  (hproject : (readProject env (env.path args.project) console).1 = .ok r)
  (hscript : (scriptText env args.commands console).1 = .ok script)
  (hpayloads : scriptPayloads? script = some payloads) (hsome : payloads ≠ [])
  (hedit : editSections (scriptConfig config.editor args.noDebounce)
    ((scriptConfig config.editor args.noDebounce).sessionKey.getD env.sessionKey) env.stepTime
    r.sections payloads = .ok (results, edited))

include hconfig hproject hscript hpayloads hsome hedit

/-- A script that is read and run prints how it went, and writes the sections that it leaves unless
nothing is to be written. -/
theorem apply_run :
    let target := (args.output.map env.path).getD (env.path args.project)
    ∃ out err, Task.apply env args console =
      (if args.dryRun then say "(dry run, nothing written)"
        else do
          writeProject target { r with sections := edited.state.sections }
          say ("✅ Wrote " ++ target)) ⟨console.files, out, err⟩ := by
  intro target
  have hnone : payloads.isEmpty = false := List.isEmpty_eq_false_iff.2 hsome
  unfold Task.apply
  rw [bind_of_ok ((onlyReads_config env).run hconfig),
    bind_of_ok ((onlyReads_readProject env _).run hproject),
    bind_of_ok ((onlyReads_scriptText env _).run hscript)]
  simp only [hpayloads, hnone, hedit, Bool.false_eq_true, if_false]
  exact report_then _ _ _ _ console

theorem apply_writes {files : FileTree} (hwrites : args.dryRun = false)
    (hwritten : console.files.write ((args.output.map env.path).getD (env.path args.project))
      (.text { r with sections := edited.state.sections }.fileText) = .ok files) :
    ∃ out err, Task.apply env args console = (.ok (), ⟨files, out, err⟩) := by
  obtain ⟨out, err, hrun⟩ := apply_run hconfig hproject hscript hpayloads hsome hedit
  rw [hwrites] at hrun
  have hwrite : writeProject ((args.output.map env.path).getD (env.path args.project))
      { r with sections := edited.state.sections } ⟨console.files, out, err⟩ =
        (.ok (), ⟨files, out, err⟩) := writeText_of_ok hwritten
  exact ⟨_, _, hrun.trans (bind_of_ok hwrite)⟩

end Run

/-- Loading the project is a change of the session that the script runs in, the last one that
undoing reaches. As long as every undo takes back a change of the script, or comes after such changes
filled the history, the run goes as in a session that begins with the project. The first other undo
takes back the load: it brings back the blank state of the new session, with nothing left to undo and
the load next to redo. A script of nothing but undos and redos leaves the blank state if it ends with
an undo, and the project if it ends with a redo. The sections that the script leaves are written. -/
theorem script_undoes_load_last (env : Environment) (args : ApplyArguments) (console : Console)
    {config : SiteConfig} {r : ProjectRecord} {script : String} {payloads : List String}
    (hconfig : (Task.config env console).1 = .ok config)
    (hproject : (readProject env (env.path args.project) console).1 = .ok r)
    (hsections : r.sections.entries ≠ [])
    (hscript : (scriptText env args.commands console).1 = .ok script)
    (hpayloads : scriptPayloads? script = some payloads) (hsome : payloads ≠ []) :
    let editing := scriptConfig config.editor args.noDebounce
    let blank := Editor.new editing (editing.sessionKey.getD env.sessionKey)
    let loaded := (blank.step (env.stepTime 0) (.loadProject r.sections none)).2
    let steps := timedPayloads env.stepTime payloads
    let edited := (loaded.runPayloads steps).2
    let target := (args.output.map env.path).getD (env.path args.project)
    (args.dryRun = false → ∀ files,
      console.files.write target (.text { r with sections := edited.state.sections }.fileText) =
        .ok files →
      ∃ out err, Task.apply env args console = (.ok (), ⟨files, out, err⟩)) ∧
    loaded.state.sections = r.sections.withSingleHome ∧
    (∀ reached, reached <+: steps → loaded.fromHere.OwnUndos reached →
      (loaded.runPayloads reached).1 = (loaded.fromHere.runPayloads reached).1 ∧
      (loaded.runPayloads reached).2.state = (loaded.fromHere.runPayloads reached).2.state) ∧
    (∀ reached p, reached ++ [p] <+: steps → loaded.fromHere.OwnUndos reached →
      ¬ loaded.fromHere.OwnUndos (reached ++ [p]) →
      loaded.runPayloads (reached ++ [p]) =
        ((loaded.fromHere.runPayloads reached).1 ++ [.ok .applied],
          (loaded.fromHere.runPayloads reached).2.atBottom ⟨blank.state, "Load project"⟩)) ∧
    ((∀ p ∈ steps, Editor.UndoesOrRedoes p.2) → ∀ before p, steps = before ++ [p] →
      (Command.ofPayload? p.2 = some .undo → edited.state = blank.state) ∧
      (Command.ofPayload? p.2 = some .redo → edited.state = loaded.state)) := by
  intro editing blank loaded steps edited target
  obtain ⟨after, hstep, hopened, hroom, honto⟩ :=
    Editor.new_loadProject editing (editing.sessionKey.getD env.sessionKey) (env.stepTime 0)
      hsections
  obtain rfl : after = loaded := by
    unfold loaded blank
    rw [hstep]
  let oldest : Snapshot EditorState := ⟨blank.state, "Load project"⟩
  refine ⟨?_, hopened, ?_, ?_, ?_⟩
  · intro hwrites files hwritten
    have hedit := editSections_ok editing (editing.sessionKey.getD env.sessionKey) env.stepTime
      hsections payloads
    exact apply_writes hconfig hproject hscript hpayloads hsome hedit hwrites hwritten
  · intro reached _ hown
    obtain ⟨hanswers, hstands⟩ := Editor.runPayloads_onto oldest hroom reached hown
    rw [← honto] at hanswers hstands
    refine ⟨hanswers, ?_⟩
    rcases hstands with ⟨-, hsame⟩ | ⟨-, -, habove⟩
    · rw [hsame]
    · rw [habove]
      rfl
  · intro reached p _ hown hlast
    have hbottom := Editor.runPayloads_onto_bottom oldest hroom hown hlast
    rwa [← honto] at hbottom
  · intro hall before p hsteps
    obtain ⟨hundone, hredone⟩ := Editor.runPayloads_undosRedos (k := loaded) oldest
      before p (hsteps ▸ hall)
    rw [← honto, ← hsteps] at hundone hredone
    refine ⟨fun hundo => ?_, fun hredo => congrArg Editor.state (hredone hredo)⟩
    have hstate := congrArg Editor.state (hundone hundo)
    exact hstate

section MainProject

/-- A project with one section under a key of its own. -/
def mainProject : String :=
  let main : Json := .obj [("id", .str "main"), ("name", .str "Main"), ("slug", .str "main"),
    ("isHome", .bool true)]
  (Json.obj [("name", .str "Shop"), ("sections", .obj [("main", main)])]).compact

/-- A directory with that project. -/
def mainConsole : Console :=
  ⟨⟨.ofList [("/main.page.json", .file (.text mainProject))]⟩, "", ""⟩

/-- A place to run scripts from the input on that project. -/
def mainEnvironment (script : String) : Environment where
  workDir := "/"
  tempDir := "/tmp"
  input := script
  now := ⟨0, 0⟩
  sessionKey := "oracle"
  -- a step each millisecond
  stepTime i := i
  packing := Frame.packing

def mainArguments : ApplyArguments := { project := "main.page.json", commands := "-" }

theorem mainEnvironment_path (script : String) :
    (mainEnvironment script).path mainArguments.project = "/main.page.json" := by
  have hpath : (mainEnvironment "").path mainArguments.project = "/main.page.json" := by
    decide +kernel
  exact hpath

theorem mainConsole_write (text : String) :
    ∃ files, mainConsole.files.write "/main.page.json" (.text text) = .ok files := ⟨_, rfl⟩

/-- The section of that project is not the one of a new session. -/
theorem mainProject_read (script : String) :
    ∃ r, (readProject (mainEnvironment script) "/main.page.json" mainConsole).1 = .ok r ∧
      r.sections.keys = ["main"] ∧ r.sections.entries ≠ [] ∧
      { r with sections := (Editor.new {} "oracle").state.sections }.fileText ≠
        { r with sections := r.sections.withSingleHome }.fileText := by
  obtain ⟨r, hr, hboth⟩ := ok_of_any
    (r := (readProject (mainEnvironment "") "/main.page.json" mainConsole).1)
    (p := fun r => r.sections.keys == ["main"] &&
      { r with sections := (Editor.new {} "oracle").state.sections }.stripped.toJson.prettyChars 0 !=
        { r with sections := r.sections.withSingleHome }.stripped.toJson.prettyChars 0)
    (by decide +kernel)
  rw [Bool.and_eq_true, beq_iff_eq, bne_iff_ne] at hboth
  obtain ⟨hkeys, hchars⟩ := hboth
  have hproject : readProject (mainEnvironment script) = readProject (mainEnvironment "") :=
    readProject_of_now rfl
  refine ⟨r, ?_, hkeys, fun hnone => ?_, fun hsame => hchars ?_⟩
  · rw [hproject, hr]
  · rw [SortedMap.keys, hnone] at hkeys
    cases hkeys
  · exact String.ofList_injective hsame

-- unfolding the texts of payloads makes unification read them letter by letter
@[irreducible] def undoPayload : String := (Json.obj [("type", .str "undo")]).compact

@[irreducible] def redoPayload : String := (Json.obj [("type", .str "redo")]).compact

/-- An undo and a redo have nothing but their kind. -/
theorem some_of_kind {found : Option Command} {c : Command} (hc : c = .undo ∨ c = .redo)
    (h : found.map Command.kind = some c.kind) : found = some c := by
  cases found with
  | none => cases h
  | some d =>
    have hkind : d.kind = c.kind := Option.some.inj h
    rcases hc with rfl | rfl
    · cases d with
      | undo => rfl
      | _ => simp [Command.kind] at hkind
    · cases d with
      | redo => rfl
      | _ => simp [Command.kind] at hkind

theorem ofPayload?_undoPayload : Command.ofPayload? undoPayload = some .undo :=
  some_of_kind (Or.inl rfl) (by decide +kernel)

theorem ofPayload?_redoPayload : Command.ofPayload? redoPayload = some .redo :=
  some_of_kind (Or.inr rfl) (by decide +kernel)

/-- A lone undo in a script replaces the project's section by the empty home section of a new
session. -/
theorem undo_writes_blank_section :
    let env := mainEnvironment ("[" ++ undoPayload ++ "]")
    let blank := Editor.new {} env.sessionKey
    let path := env.path mainArguments.project
    let written := (Task.apply env mainArguments mainConsole).2.files.readText path
    ∃ r, (readProject env path mainConsole).1 = .ok r ∧ r.sections.keys = ["main"] ∧
      scriptPayloads? env.input = some [undoPayload] ∧
      Command.ofPayload? undoPayload = some .undo ∧
      (Task.apply env mainArguments mainConsole).1.isOk = true ∧
      written.toOption = some { r with sections := blank.state.sections }.fileText ∧
      { r with sections := blank.state.sections }.fileText ≠
        { r with sections := r.sections.withSingleHome }.fileText := by
  intro env blank path written
  have hpath : path = "/main.page.json" := mainEnvironment_path _
  obtain ⟨r, hr, hkeys, hsections, hother⟩ := mainProject_read ("[" ++ undoPayload ++ "]")
  rw [← hpath] at hr
  have hconfig : (Task.config env mainConsole).1 = .ok {} := config_of_absent (by decide +kernel)
  have hscript : (scriptText env mainArguments.commands mainConsole).1 = .ok env.input := rfl
  have hpayloads : scriptPayloads? env.input = some [undoPayload] := by decide +kernel
  have hedit := editSections_ok {} env.sessionKey env.stepTime hsections [undoPayload]
  have hstate := undo_after_load {} env.sessionKey (env.stepTime 0) 1 hsections
    ofPayload?_undoPayload
  obtain ⟨files, hfiles⟩ :=
    mainConsole_write { r with sections := blank.state.sections }.fileText
  rw [← hpath] at hfiles
  obtain ⟨out, err, hrun⟩ := apply_writes hconfig hr hscript hpayloads (List.cons_ne_nil _ _) hedit
    rfl (hstate ▸ hfiles)
  refine ⟨r, hr, hkeys, hpayloads, ofPayload?_undoPayload, ?_, ?_, hother⟩
  · rw [hrun]
    rfl
  · unfold written
    rw [hrun, FileTree.readText_write hfiles]
    rfl

/-- Undoing the load and redoing it writes the project's own section. -/
theorem script_undoes_load_last_back_and_forth :
    let env := mainEnvironment ("[" ++ undoPayload ++ "," ++ redoPayload ++ "]")
    let blank := Editor.new {} env.sessionKey
    let path := env.path mainArguments.project
    ∃ r, (Task.config env mainConsole).1 = .ok {} ∧
      (readProject env path mainConsole).1 = .ok r ∧ r.sections.entries ≠ [] ∧
      scriptPayloads? env.input = some [undoPayload, redoPayload] ∧
      ((blank.step (env.stepTime 0) (.loadProject r.sections none)).2.runPayloads
        [(1, undoPayload)]).2.state = blank.state ∧
      ∃ files out err, Task.apply env mainArguments mainConsole = (.ok (), ⟨files, out, err⟩) ∧
        mainConsole.files.write path
          (.text { r with sections := r.sections.withSingleHome }.fileText) = .ok files := by
  intro env blank path
  have hconfig : (Task.config env mainConsole).1 = .ok {} := config_of_absent (by decide +kernel)
  have hpath : path = "/main.page.json" := mainEnvironment_path _
  obtain ⟨r, hr, -, hsections, -⟩ := mainProject_read ("[" ++ undoPayload ++ "," ++ redoPayload ++ "]")
  rw [← hpath] at hr
  have hscript : (scriptText env mainArguments.commands mainConsole).1 = .ok env.input := rfl
  have hpayloads : scriptPayloads? env.input = some [undoPayload, redoPayload] := by decide +kernel
  obtain ⟨hwrites, hopened, -, hbottom, hbetween⟩ := script_undoes_load_last env mainArguments
    mainConsole hconfig hr hsections hscript hpayloads (List.cons_ne_nil _ _)
  refine ⟨r, hconfig, hr, hsections, hpayloads, ?_, ?_⟩
  · have hback := hbottom [] (1, undoPayload) ⟨_, rfl⟩ (Editor.ownUndos_nil _)
      (Editor.not_ownUndos_fromHere _ ofPayload?_undoPayload)
    have hstate := congrArg (fun x => x.2.state) hback
    exact hstate
  · have hall : ∀ p ∈ timedPayloads env.stepTime [undoPayload, redoPayload],
        Editor.UndoesOrRedoes p.2 := by
      intro p hp
      rcases List.mem_pair.1 hp with rfl | rfl
      · exact Or.inl ofPayload?_undoPayload
      · exact Or.inr ofPayload?_redoPayload
    have hstate :=
      (hbetween hall [(1, undoPayload)] (2, redoPayload) rfl).2 ofPayload?_redoPayload
    -- the text is not evaluated: any text can be written at that path
    obtain ⟨files, hfiles⟩ :=
      mainConsole_write { r with sections := r.sections.withSingleHome }.fileText
    rw [← hpath] at hfiles
    rw [hstate, hopened] at hwrites
    obtain ⟨out, err, hrun⟩ := hwrites rfl files hfiles
    exact ⟨files, out, err, hrun, hfiles⟩

end MainProject

end Task

end PageBuilder
