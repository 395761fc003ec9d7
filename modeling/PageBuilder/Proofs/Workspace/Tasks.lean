import PageBuilder.Proofs.Files.Tree
import PageBuilder.Workspace.ProjectFile

/-!
Runs of tasks. A task goes on with the result of the step before and with the console that it left,
unless that step fails; a project file that was written is read as its text. Tasks that only read
leave the console as it is, and tasks that only print leave the files.
-/

namespace PageBuilder.Task

variable {α β : Type} {t : Task α} {f : α → Task β} {console console' : Console}

theorem bind_of_ok {a : α} (h : t console = (.ok a, console')) :
    (t >>= f) console = f a console' := by
  simp only [bind, ExceptT.bind, ExceptT.mk, StateT.bind, h, ExceptT.bindCont]

theorem bind_of_error {e : Failure} (h : t console = (.error e, console')) :
    (t >>= f) console = (.error e, console') := by
  simp only [bind, ExceptT.bind, ExceptT.mk, StateT.bind, h, ExceptT.bindCont]
  rfl

/-- A task that succeeds has gone on with the result of its first step. -/
theorem of_bind_ok {b : β} (h : (t >>= f) console = (.ok b, console')) :
    ∃ a between, t console = (.ok a, between) ∧ f a between = (.ok b, console') := by
  match hfirst : t console with
  | (.ok a, between) =>
    rw [bind_of_ok hfirst] at h
    exact ⟨a, between, rfl, h⟩
  | (.error e, between) =>
    rw [bind_of_error hfirst] at h
    cases h

theorem attempt_run {result : Except Failure α}
    (h : attempt t console = (.ok result, console')) : t console = (result, console') := by
  unfold attempt at h
  generalize t console = outcome at h
  obtain ⟨reached, after⟩ := outcome
  cases h
  rfl

variable {wrap : FileError → Failure} {path s : String}

theorem files_run (console : Console) : files console = (.ok console.files, console) := rfl

theorem say_run (line : String) (console : Console) :
    say line console = (.ok (), ⟨console.files, console.out ++ (line ++ "\n"), console.err⟩) := rfl

theorem warn_run (line : String) (console : Console) :
    warn line console = (.ok (), ⟨console.files, console.out, console.err ++ line ++ "\n"⟩) := rfl

theorem readText_of_ok (h : console.files.readText path = .ok s) :
    readText wrap path console = (.ok s, console) := by
  rw [readText, bind_of_ok (files_run console), h]
  rfl

theorem writeText_ok (h : writeText wrap path s console = (.ok (), console')) :
    console.files.write path (.text s) = .ok console'.files := by
  rw [writeText, bind_of_ok (files_run console)] at h
  cases hwrite : console.files.write path (.text s) with
  | error e =>
    have hfails : orFail wrap (.error e : Except FileError FileTree) console =
        (.error (wrap e), console) := rfl
    rw [hwrite, bind_of_error hfails] at h
    cases h
  | ok t =>
    have hgoes : orFail wrap (.ok t) console = (.ok t, console) := rfl
    rw [hwrite, bind_of_ok hgoes] at h
    cases h
    rfl

theorem readText_ok (h : readText wrap path console = (.ok s, console')) :
    console.files.readText path = .ok s ∧ console' = console := by
  rw [readText, bind_of_ok (files_run console)] at h
  cases hread : console.files.readText path with
  | error e =>
    rw [hread] at h
    cases h
  | ok text =>
    rw [hread] at h
    cases h
    exact ⟨rfl, rfl⟩

theorem makeDirectories_ok (h : makeDirectories wrap path console = (.ok (), console')) :
    console.files.makeDirectories path = (.ok (), console'.files) := by
  rw [makeDirectories, bind_of_ok (files_run console)] at h
  generalize console.files.makeDirectories path = outcome at h ⊢
  obtain ⟨result, made⟩ := outcome
  obtain ⟨⟨⟩, between, hset, hresult⟩ := of_bind_ok h
  cases hset
  cases result with
  | error e => cases hresult
  | ok done =>
    cases hresult
    rfl

/-- Reading a project needs nothing of its surroundings but the time. -/
theorem readProject_of_now {env other : Environment} (h : env.now = other.now) :
    readProject env = readProject other := by
  unfold readProject
  rw [h]

theorem readProject_ok {env : Environment} {r : ProjectRecord}
    (h : readProject env path console = (.ok r, console')) :
    ∃ text, console.files.readText path = .ok text ∧ importProject env.now text = .ok r ∧
      console' = console := by
  obtain ⟨text, between, hread, hproject⟩ := of_bind_ok h
  obtain ⟨htext, rfl⟩ := readText_ok hread
  cases himport : importProject env.now text with
  | error e =>
    rw [himport] at hproject
    cases hproject
  | ok project =>
    rw [himport] at hproject
    cases hproject
    exact ⟨text, htext, himport, rfl⟩

theorem readProject_writeProject {r : ProjectRecord} (env : Environment)
    (h : writeProject path r console = (.ok (), console')) :
    readProject env path console' =
      ((importProject env.now r.fileText).mapError (.noProjectAt path), console') := by
  have hread : readText (.fileAt .reading path) path console' = (.ok r.fileText, console') :=
    readText_of_ok (FileTree.readText_write (writeText_ok h))
  rw [readProject, bind_of_ok hread]
  cases importProject env.now r.fileText <;> rfl

theorem writeText_of_ok {t : FileTree} (h : console.files.write path (.text s) = .ok t) :
    writeText wrap path s console = (.ok (), ⟨t, console.out, console.err⟩) := by
  rw [writeText, bind_of_ok (files_run console), h]
  rfl

/-- A task that leaves the console as it is. -/
def OnlyReads (t : Task α) : Prop := ∀ console, (t console).2 = console

/-- A task that succeeds and does nothing but print. -/
def OnlyPrints (t : Task Unit) : Prop :=
  ∀ console, ∃ out err, t console = (.ok (), ⟨console.files, out, err⟩)

theorem OnlyReads.run (h : OnlyReads t) {a : α} (hok : (t console).1 = .ok a) :
    t console = (.ok a, console) := Prod.ext hok (h console)

theorem OnlyReads.stop (h : OnlyReads t) {e : Failure} (herror : (t console).1 = .error e) :
    t console = (.error e, console) := Prod.ext herror (h console)

theorem OnlyReads.bind (ht : OnlyReads t) (hf : ∀ a, OnlyReads (f a)) : OnlyReads (t >>= f) := by
  intro console
  cases hrun : (t console).1 with
  | error e => rw [bind_of_error (ht.stop hrun)]
  | ok a =>
    rw [bind_of_ok (ht.run hrun)]
    exact hf a console

/-- Two tasks that go on from one that only reads come out alike if they do after its success. -/
theorem OnlyReads.bind_rel {r : Except Failure β × Console → Except Failure β × Console → Prop}
    {g : α → Task β} (ht : OnlyReads t) (hrefl : ∀ x, r x x)
    (h : ∀ a, (t console).1 = .ok a → r (f a console) (g a console)) :
    r ((t >>= f) console) ((t >>= g) console) := by
  cases hrun : (t console).1 with
  | error e =>
    rw [bind_of_error (ht.stop hrun), bind_of_error (ht.stop hrun)]
    exact hrefl _
  | ok a =>
    rw [bind_of_ok (ht.run hrun), bind_of_ok (ht.run hrun)]
    exact h a hrun

theorem onlyReads_pure (a : α) : OnlyReads (pure a) := fun _ => rfl

theorem onlyReads_throw (e : Failure) : OnlyReads (throw e : Task α) := fun _ => rfl

theorem onlyReads_files : OnlyReads files := fun _ => rfl

theorem onlyReads_readText (wrap : FileError → Failure) (path : String) :
    OnlyReads (readText wrap path) := by
  refine onlyReads_files.bind fun tree => ?_
  cases tree.readText path with
  | error e => exact onlyReads_throw _
  | ok text => exact onlyReads_pure text

theorem onlyReads_config (env : Environment) : OnlyReads (config env) := by
  refine onlyReads_files.bind fun tree => ?_
  split
  · refine (onlyReads_readText _ _).bind fun text => ?_
    cases SiteConfig.ofText? text with
    | none => exact onlyReads_throw _
    | some c => exact onlyReads_pure c
  · exact onlyReads_pure _

/-- Without a settings file the settings are the usual ones. -/
theorem config_of_absent {env : Environment}
    (h : console.files.hasPath (env.path configFileName) = false) :
    (config env console).1 = .ok {} := by
  rw [config, bind_of_ok (files_run console), h]
  rfl

theorem onlyReads_readProject (env : Environment) (path : String) :
    OnlyReads (readProject env path) := by
  refine (onlyReads_readText _ _).bind fun text => ?_
  cases importProject env.now text with
  | error e => exact onlyReads_throw _
  | ok r => exact onlyReads_pure r

theorem onlyPrints_say (line : String) : OnlyPrints (say line) := fun _ => ⟨_, _, rfl⟩

theorem OnlyPrints.bind {t u : Task Unit} (ht : OnlyPrints t) (hu : OnlyPrints u) :
    OnlyPrints (t >>= fun _ => u) := by
  intro console
  obtain ⟨out, err, hrun⟩ := ht console
  rw [bind_of_ok hrun]
  exact hu _

end PageBuilder.Task
