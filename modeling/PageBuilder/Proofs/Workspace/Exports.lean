import PageBuilder.Proofs.Files.Keeping
import PageBuilder.Proofs.Workspace.Tasks
import PageBuilder.Workspace.Compile

/-!
Exporting project files one after the other. The name of a document is made of the name of its
project file alone. No document takes the place of a project file, so each is made of the file as it
was at the start; and what is left at a path is the document of the last file that goes there.
-/

namespace PageBuilder

section Names

/-- The name of the document of a project file. -/
def documentName (path : String) : String := projectStem path ++ ".html"

theorem documentName_inj {path other : String} :
    documentName path = documentName other ↔ projectStem path = projectStem other := by
  rw [documentName, documentName, ← String.toList_inj, String.toList_append, String.toList_append,
    List.append_cancel_right_eq, String.toList_inj]

theorem projectStem_not_mem (path : String) : '/' ∉ (projectStem path).toList := by
  have hname : '/' ∉ ((lastName? path).getD "project").toList := by
    cases hlast : lastName? path with
    | none => decide
    | some name => exact lastName?_not_mem hlast
  unfold projectStem
  dsimp only
  split
  · next stem hstem =>
    rw [beforeBack?_eq_some_iff] at hstem
    rw [String.toList_ofList]
    rw [hstem] at hname
    exact fun hmem => hname (List.mem_append_left _ hmem)
  · exact hname

theorem documentName_not_mem (path : String) : '/' ∉ (documentName path).toList := by
  rw [documentName, String.toList_append, List.mem_append, not_or]
  exact ⟨projectStem_not_mem path, by decide⟩

theorem documentName_getLast? (path : String) : (documentName path).toList.getLast? = some 'l' := by
  have hend : ".html".toList.getLast? = some 'l' := by decide
  rw [documentName, String.toList_append, List.getLast?_append, hend, Option.some_or]

/-- The document of a project file has its name, wherever documents go. -/
theorem lastName?_documentPath (outDir path : String) :
    lastName? (documentPath outDir path) = some (documentName path) := by
  have hlast := documentName_getLast? path
  have hidle : isIdleStep (documentName path) = false := by
    rw [isIdleStep, Bool.or_eq_false_iff, beq_eq_false_iff_ne]
    refine ⟨?_, fun hdot => ?_⟩
    · rw [Bool.eq_false_iff]
      intro hempty
      rw [String.isEmpty_iff.1 hempty] at hlast
      cases hlast
    · rw [hdot] at hlast
      exact absurd hlast (by decide)
  have hup : documentName path ≠ ".." := by
    intro hup
    rw [hup] at hlast
    exact absurd hlast (by decide)
  obtain ⟨way, hsteps⟩ := pathSteps_joinPath (documentName_not_mem path) outDir
  exact lastName?_of_steps hsteps hidle hup

/-- Documents share a path exactly if their project files share the name without its ending. -/
theorem documentPath_eq_iff (outDir path other : String) :
    documentPath outDir path = documentPath outDir other ↔
      projectStem path = projectStem other := by
  constructor
  · intro h
    have hnames := lastName?_documentPath outDir path
    rw [h, lastName?_documentPath] at hnames
    exact documentName_inj.1 (Option.some.inj hnames).symm
  · intro h
    rw [documentPath, documentPath, h]

/-- No document has the name of a file that is exported. -/
theorem lastName?_ne_documentName {path : String}
    (h : (isProjectPath path || isJsonPath path) = true) :
    ∃ name, lastName? path = some name ∧ ∀ other, name ≠ documentName other := by
  cases hname : lastName? path with
  | none =>
    rw [isProjectPath, isJsonPath, hname] at h
    cases h
  | some name =>
    have hlast : name.toList.getLast? = some 'n' := by
      have hends {back front : List Char} (hback : back.getLast? = some 'n') :
          (front ++ back).getLast? = some 'n' := by
        rw [List.getLast?_append, hback, Option.some_or]
      rcases Bool.or_eq_true_iff.1 h with hproject | hjson
      · rw [isProjectPath, hname, Option.map_some, Option.getD_some] at hproject
        obtain ⟨front, hfront⟩ := List.isSuffixOf_iff_suffix.1 hproject
        rw [← hfront]
        exact hends (by decide)
      · rw [isJsonPath, hname, Option.bind_some] at hjson
        split at hjson
        · next stem hstem =>
          rw [beforeBack?_eq_some_iff.1 hstem]
          exact hends (by decide)
        · cases hjson
    refine ⟨name, rfl, fun other heq => ?_⟩
    rw [heq, documentName_getLast?] at hlast
    exact absurd hlast (by decide)

end Names

namespace Task

variable {env : Environment} {config : SiteConfig} {args : CompileArguments} {outDir path : String}
  {console console' : Console}

/-- The document of the project file at a path, if there is one. -/
def documentAt? (env : Environment) (config : SiteConfig) (minify : Bool) (t : FileTree)
    (path : String) : Option String := do
  let text ← (t.readText path).toOption
  let r ← (importProject env.now text).toOption
  (compileDocument r.sections (documentOptions config minify r)).toOption

theorem documentAt?_eq_some {minify : Bool} {t : FileTree} {html : String}
    (h : documentAt? env config minify t path = some html) :
    ∃ text r, t.readText path = .ok text ∧ importProject env.now text = .ok r ∧
      compileDocument r.sections (documentOptions config minify r) = .ok html := by
  unfold documentAt? at h
  obtain ⟨text, htext, h⟩ := Option.bind_eq_some_iff.1 h
  obtain ⟨r, hr, hhtml⟩ := Option.bind_eq_some_iff.1 h
  exact ⟨text, r, ok_of_toOption htext, ok_of_toOption hr, ok_of_toOption hhtml⟩

/-- A file is exported: its document is at the path for it, and nothing else is touched. -/
structure Exported (env : Environment) (config : SiteConfig) (args : CompileArguments)
    (outDir path : String) (t t' : FileTree) : Prop where
  named : (isProjectPath path || isJsonPath path) = true
  keeps : t.KeepsBut [documentName path] t'
  written : ∃ html, documentAt? env config args.minify t path = some html ∧
    t'.readText (documentPath outDir path) = .ok html

theorem document_ok {r : ProjectRecord} {options : ExportOptions} {html : String}
    (h : document r options console = (.ok html, console')) :
    compileDocument r.sections options = .ok html ∧ console' = console := by
  unfold document at h
  cases hdocument : compileDocument r.sections options with
  | error e =>
    rw [hdocument] at h
    cases h
  | ok text =>
    rw [hdocument] at h
    cases h
    exact ⟨rfl, rfl⟩

theorem compileFile_ok (hstdout : args.stdout = false) {target : String}
    (h : compileFile env config args outDir path console = (.ok target, console')) :
    Exported env config args outDir path console.files console'.files := by
  unfold compileFile at h
  split at h
  · cases h
  next hnamed =>
  obtain ⟨r, read, hread, hrendered⟩ := of_bind_ok h
  obtain ⟨text, htext, himport, hread'⟩ := readProject_ok hread
  obtain ⟨html, rendered, hhtml, hstored⟩ := of_bind_ok hrendered
  obtain ⟨hdocument, hrendered'⟩ := document_ok hhtml
  rw [hstdout, if_neg Bool.false_ne_true, hrendered', hread'] at hstored
  obtain ⟨⟨⟩, made, hmade, hwrites⟩ := of_bind_ok hstored
  obtain ⟨⟨⟩, wrote, hwrote, hdone⟩ := of_bind_ok hwrites
  have hwrote' : wrote = console' := congrArg Prod.snd hdone
  have hway := makeDirectories_ok hmade
  have hwrite := writeText_ok hwrote
  rw [hwrote'] at hwrite
  refine ⟨?_, ?_, html, ?_, FileTree.readText_write hwrite⟩
  · simpa [Bool.or_eq_true, or_iff_not_imp_left] using hnamed
  · have hdirectories := FileTree.makeDirectories_keepsBut console.files outDir
    rw [hway] at hdirectories
    have hlast := FileTree.write_keepsBut (lastName?_documentPath outDir path) hwrite
    exact (hdirectories.mono (List.nil_subset _)).trans hlast
  · unfold documentAt?
    rw [htext]
    simp only [Except.toOption, Option.bind_eq_bind, Option.bind_some, himport, hdocument]

/-- Where all files are exported, the first one is, and then the others. -/
theorem compileAll_cons_ok (hstdout : args.stdout = false) {input : CompileInput}
    {rest : List CompileInput}
    (h : compileAll env config args outDir (input :: rest) console = (.ok 0, console')) :
    ∃ between, Exported env config args outDir input.path console.files between.files ∧
      compileAll env config args outDir rest between = (.ok 0, console') := by
  rw [compileAll] at h
  obtain ⟨result, between, hattempt, hgoes⟩ := of_bind_ok h
  cases result with
  | ok target =>
    have hexported := compileFile_ok hstdout (attempt_run hattempt)
    dsimp only at hgoes
    rw [hstdout] at hgoes
    obtain ⟨⟨⟩, said, hsaid, hrest⟩ := of_bind_ok hgoes
    cases hsaid
    refine ⟨_, ?_, hrest⟩
    exact hexported
  | error e =>
    obtain ⟨⟨⟩, warned, -, hcount⟩ := of_bind_ok hgoes
    obtain ⟨failed, counted, -, hdone⟩ := of_bind_ok hcount
    exact absurd (Except.ok.inj (congrArg Prod.fst hdone)) (Nat.succ_ne_zero failed)

theorem compileAll_named (hstdout : args.stdout = false) {inputs : List CompileInput}
    (h : compileAll env config args outDir inputs console = (.ok 0, console')) :
    ∀ input ∈ inputs, (isProjectPath input.path || isJsonPath input.path) = true := by
  induction inputs generalizing console with
  | nil => exact List.forall_mem_nil _
  | cons input rest ih =>
    obtain ⟨between, hfirst, hrest⟩ := compileAll_cons_ok hstdout h
    exact List.forall_mem_cons.2 ⟨hfirst.named, ih hrest⟩

/-- Where all files are exported, each of them has a document, and the last one of a name finds its
document at the path for it. -/
theorem compileAll_ok (hstdout : args.stdout = false) {inputs : List CompileInput}
    (hfiles : ∀ input ∈ inputs, console.files.isFile input.path = true)
    (h : compileAll env config args outDir inputs console = (.ok 0, console')) :
    console.files.KeepsBut (inputs.map fun input => documentName input.path) console'.files ∧
    (∀ input ∈ inputs, (documentAt? env config args.minify console.files input.path).isSome) ∧
    ∀ before input behind, inputs = before ++ input :: behind →
      (∀ other ∈ behind, projectStem other.path ≠ projectStem input.path) →
      (console'.files.readText (documentPath outDir input.path)).toOption =
        documentAt? env config args.minify console.files input.path := by
  induction inputs generalizing console with
  | nil =>
    cases h
    refine ⟨.refl _ _, List.forall_mem_nil _, fun before input behind hinputs => ?_⟩
    simp at hinputs
  | cons first rest ih =>
    have hnamed := compileAll_named hstdout h
    obtain ⟨between, hfirst, hrest⟩ := compileAll_cons_ok hstdout h
    -- the first document is no file that is still to be exported
    have hlater : ∀ input ∈ rest, between.files.isFile input.path = true ∧
        documentAt? env config args.minify between.files input.path =
          documentAt? env config args.minify console.files input.path := by
      intro input hinput
      obtain ⟨name, hname, hne⟩ :=
        lastName?_ne_documentName (hnamed input (List.mem_cons_of_mem _ hinput))
      obtain ⟨contents, hfile⟩ :=
        FileTree.isFile_iff.1 (hfiles input (List.mem_cons_of_mem _ hinput))
      have hslash : ∀ other ∈ [documentName first.path], '/' ∉ other.toList :=
        List.forall_mem_singleton.2 (documentName_not_mem _)
      have hfree : name ∉ [documentName first.path] :=
        fun hmem => hne _ (List.mem_singleton.1 hmem)
      refine ⟨FileTree.isFile_iff.2 ⟨contents, hfirst.keeps.lookup hslash hname hfree hfile⟩, ?_⟩
      rw [documentAt?, documentAt?, hfirst.keeps.readText_eq hslash hname hfree hfile]
    obtain ⟨hkeeps, hdocuments, hlast⟩ := ih (fun input hinput => (hlater input hinput).1) hrest
    obtain ⟨html, hhtml, hwritten⟩ := hfirst.written
    refine ⟨?_, List.forall_mem_cons.2 ⟨?_, fun input hinput => ?_⟩, ?_⟩
    · refine (hfirst.keeps.mono ?_).trans (hkeeps.mono (List.subset_cons_self ..))
      exact List.cons_subset.2 ⟨List.mem_cons_self .., List.nil_subset _⟩
    · rw [hhtml]
      rfl
    · rw [← (hlater input hinput).2]
      exact hdocuments input hinput
    · intro before input behind hinputs hbehind
      cases before with
      | nil =>
        obtain ⟨rfl, rfl⟩ := List.cons.inj hinputs
        have hfile := FileTree.lookup_of_readText hwritten
        have hslash : ∀ name ∈ rest.map fun other => documentName other.path,
            '/' ∉ name.toList := by
          intro name hname
          obtain ⟨other, -, rfl⟩ := List.mem_map.1 hname
          exact documentName_not_mem _
        have hfree : documentName first.path ∉ rest.map fun other => documentName other.path := by
          intro hmem
          obtain ⟨other, hother, hname⟩ := List.mem_map.1 hmem
          exact hbehind other hother (documentName_inj.1 hname)
        rw [hkeeps.readText_eq hslash (lastName?_documentPath _ _) hfree hfile, hwritten, hhtml]
        rfl
      | cons first' before =>
        obtain ⟨rfl, hothers⟩ := List.cons.inj hinputs
        rw [hlast before input behind hothers hbehind]
        refine (hlater input ?_).2
        rw [hothers]
        exact List.mem_append_right _ (List.mem_cons_self ..)

theorem compileAll_counts (env : Environment) (config : SiteConfig) (args : CompileArguments)
    (outDir : String) (inputs : List CompileInput) (console : Console) :
    ∃ failed console', compileAll env config args outDir inputs console = (.ok failed, console') := by
  induction inputs generalizing console with
  | nil => exact ⟨0, console, rfl⟩
  | cons input rest ih =>
    have hattempt : attempt (compileFile env config args outDir input.path) console =
        (.ok (compileFile env config args outDir input.path console).1,
          (compileFile env config args outDir input.path console).2) := rfl
    rw [compileAll, bind_of_ok hattempt]
    cases (compileFile env config args outDir input.path console).1 with
    | ok target =>
      dsimp only
      split
      · exact ih _
      · exact ih _
    | error e =>
      dsimp only
      rw [bind_of_ok (warn_run _ _)]
      obtain ⟨failed, counted, hrest⟩ := ih _
      rw [bind_of_ok hrest]
      exact ⟨failed + 1, counted, rfl⟩

end Task

end PageBuilder
