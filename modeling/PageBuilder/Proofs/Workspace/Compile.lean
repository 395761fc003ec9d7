import PageBuilder.Proofs.Html.Document
import PageBuilder.Proofs.Workspace.Exports

/-!
Documents of a directory of projects. Every project file that is found is exported, but of project
files with one name in different directories only the last one keeps its document.
-/

namespace PageBuilder

/-- Among items of which one has a property there is a last one that has it. -/
theorem exists_last {α : Type} {p : α → Prop} {l : List α} (h : ∃ a ∈ l, p a) :
    ∃ before a behind, l = before ++ a :: behind ∧ p a ∧ ∀ b ∈ behind, ¬ p b := by
  induction l with
  | nil =>
    obtain ⟨a, ha, -⟩ := h
    cases ha
  | cons b rest ih =>
    by_cases hrest : ∃ a ∈ rest, p a
    · obtain ⟨before, a, behind, rfl, ha, hbehind⟩ := ih hrest
      exact ⟨b :: before, a, behind, rfl, ha, hbehind⟩
    · obtain ⟨a, hmem, ha⟩ := h
      rcases List.mem_cons.1 hmem with rfl | hmem
      · exact ⟨[], a, rest, rfl, ha, fun c hc hpc => hrest ⟨c, hc, hpc⟩⟩
      · exact absurd ⟨a, hmem, ha⟩ hrest

namespace Task

variable {env : Environment} {config : SiteConfig} {args : CompileArguments}
  {console console' : Console}

/-- A console on which the number of files to export was told. -/
def announced (console : Console) (count : Nat) : Console :=
  ⟨console.files, console.out ++ ("🔨 Compiling Pagesmith projects..." ++ "\n") ++
    ("Found " ++ toString count ++ " files" ++ "\n"), console.err⟩

/-- Exporting files without printing them tells how many there are, exports all of them, and fails
if one of them failed. -/
theorem compile_run {inputs : List CompileInput} (hstdout : args.stdout = false)
    (hconfig : (Task.config env console).1 = .ok config)
    (hinputs : compileInputs? console.files (env.path (args.path.getD config.srcDir)) = some inputs)
    (hsome : inputs ≠ []) {failed : Nat} {exported : Console}
    (hall : compileAll env config args (env.path (args.outDir.getD config.outDir)) inputs
      (announced console inputs.length) = (.ok failed, exported)) :
    ∃ out, Task.compile env args console =
      (if failed = 0 then .ok () else .error (.someFailed failed),
        ⟨exported.files, out, exported.err⟩) := by
  have hnone : inputs.isEmpty = false := List.isEmpty_eq_false_iff.2 hsome
  have hprints : (!args.stdout) = true := by
    rw [hstdout]
    rfl
  unfold Task.compile
  rw [bind_of_ok ((onlyReads_config env).run hconfig)]
  dsimp only
  rw [bind_of_ok (files_run console), hinputs]
  dsimp only
  rw [announced] at hall
  rw [hnone, if_neg Bool.false_ne_true, if_pos hprints, bind_of_ok (say_run _ _),
    bind_of_ok (say_run _ _), bind_of_ok hall, if_pos hprints, bind_of_ok (say_run _ _)]
  cases failed with
  | zero =>
    rw [if_pos rfl, bind_of_ok (say_run _ _)]
    exact ⟨_, rfl⟩
  | succ failed =>
    rw [if_neg (Nat.succ_ne_zero failed), bind_of_ok (say_run _ _)]
    exact ⟨_, rfl⟩

theorem compileInputs?_files {t : FileTree} {path : String} {inputs : List CompileInput}
    (h : compileInputs? t path = some inputs) : ∀ input ∈ inputs, t.isFile input.path = true := by
  unfold compileInputs? at h
  split at h
  · cases h
  next place hlocate =>
  split at h
  · cases h
  · next contents hentry =>
    cases h
    refine List.forall_mem_singleton.2 (FileTree.isFile_iff.2 ⟨contents, ?_⟩)
    rw [FileTree.lookup, hlocate]
    simp only [bind, Except.bind, hentry]
    rfl
  · cases h
    exact fun input hinput => (List.mem_filter.1 hinput).2

/-- A run that exports files and succeeds has read the settings and found files, and has exported
all that it found. -/
theorem compile_ok (hstdout : args.stdout = false)
    (h : Task.compile env args console = (.ok (), console')) :
    ∃ config inputs, (Task.config env console).1 = .ok config ∧
      compileInputs? console.files (env.path (args.path.getD config.srcDir)) = some inputs ∧
      ∃ start exported, start.files = console.files ∧ exported.files = console'.files ∧
        compileAll env config args (env.path (args.outDir.getD config.outDir)) inputs start =
          (.ok 0, exported) := by
  have hrun := h
  unfold Task.compile at hrun
  obtain ⟨config, read, hread, hrest⟩ := of_bind_ok hrun
  have hsame : read = console := by
    rw [← onlyReads_config env console, hread]
  rw [hsame] at hread hrest
  have hconfig : (Task.config env console).1 = .ok config := by rw [hread]
  dsimp only at hrest
  rw [bind_of_ok (files_run console)] at hrest
  cases hinputs : compileInputs? console.files (env.path (args.path.getD config.srcDir)) with
  | none =>
    rw [hinputs] at hrest
    cases hrest
  | some inputs =>
    refine ⟨config, inputs, hconfig, hinputs, ?_⟩
    by_cases hnone : inputs = []
    · rw [hinputs, hnone] at hrest
      cases hrest
      rw [hnone]
      exact ⟨console, console, rfl, rfl, rfl⟩
    · obtain ⟨failed, exported, hall⟩ := compileAll_counts env config args
        (env.path (args.outDir.getD config.outDir)) inputs _
      obtain ⟨out, hout⟩ := compile_run hstdout hconfig hinputs hnone hall
      rw [h] at hout
      obtain ⟨hresult, hconsole⟩ := Prod.mk.inj hout
      have hfailed : failed = 0 := by
        by_contra hne
        rw [if_neg hne] at hresult
        cases hresult
      rw [hfailed] at hall
      refine ⟨_, exported, ?_, ?_, hall⟩
      · rfl
      · rw [hconsole]

/-- What a run that exports files and succeeds leaves: every file that it found has a document, the
last one of a name finds it at the path for it, and files with other names are as they were. -/
theorem compile_exports (hstdout : args.stdout = false)
    (hok : (Task.compile env args console).1 = .ok ()) :
    ∃ config inputs, (Task.config env console).1 = .ok config ∧
      compileInputs? console.files (env.path (args.path.getD config.srcDir)) = some inputs ∧
      console.files.KeepsBut (inputs.map fun input => documentName input.path)
        (Task.compile env args console).2.files ∧
      (∀ input ∈ inputs, (documentAt? env config args.minify console.files input.path).isSome) ∧
      ∀ before input behind, inputs = before ++ input :: behind →
        (∀ other ∈ behind, projectStem other.path ≠ projectStem input.path) →
        ((Task.compile env args console).2.files.readText
          (documentPath (env.path (args.outDir.getD config.outDir)) input.path)).toOption =
            documentAt? env config args.minify console.files input.path := by
  obtain ⟨config, inputs, hconfig, hinputs, start, exported, hstart, hexported, hall⟩ :=
    compile_ok hstdout (Prod.ext hok rfl)
  have hfiles := compileInputs?_files hinputs
  rw [← hstart] at hfiles
  obtain ⟨hkeeps, hdocuments, hlast⟩ := compileAll_ok hstdout hfiles hall
  rw [hstart] at hkeeps hdocuments hlast
  rw [hexported] at hkeeps hlast
  exact ⟨config, inputs, hconfig, hinputs, hkeeps, hdocuments, hlast⟩

/-- A run that exports files and succeeds has a document for every project file, but two of them go
to one path exactly if their files share the name without its ending, and there the last one stays.
So all documents are left exactly if files that share it have the same document. Files with other
names are as they were. -/
theorem compile_keeps_documents_iff (env : Environment) (args : CompileArguments)
    (console : Console) (hstdout : args.stdout = false)
    (hok : (Task.compile env args console).1 = .ok ()) :
    ∃ config inputs, (Task.config env console).1 = .ok config ∧
      compileInputs? console.files (env.path (args.path.getD config.srcDir)) = some inputs ∧
      let target (input : CompileInput) : String :=
        documentPath (env.path (args.outDir.getD config.outDir)) input.path
      let document (input : CompileInput) : Option String :=
        documentAt? env config args.minify console.files input.path
      let left (input : CompileInput) : Option String :=
        ((Task.compile env args console).2.files.readText (target input)).toOption
      (∀ input ∈ inputs, (document input).isSome) ∧
      console.files.KeepsBut (inputs.map fun input => documentName input.path)
        (Task.compile env args console).2.files ∧
      (∀ input other, target input = target other ↔
        projectStem input.path = projectStem other.path) ∧
      (∀ before input behind, inputs = before ++ input :: behind →
        (∀ other ∈ behind, target other ≠ target input) → left input = document input) ∧
      ((∀ input ∈ inputs, left input = document input) ↔
        ∀ input ∈ inputs, ∀ other ∈ inputs, projectStem input.path = projectStem other.path →
          document input = document other) := by
  obtain ⟨config, inputs, hconfig, hinputs, hkeeps, hdocuments, hlast⟩ :=
    compile_exports hstdout hok
  refine ⟨config, inputs, hconfig, hinputs, ?_⟩
  intro target document left
  have htarget (input other : CompileInput) :
      target input = target other ↔ projectStem input.path = projectStem other.path :=
    documentPath_eq_iff _ _ _
  have hleft (before : List CompileInput) (input : CompileInput) (behind : List CompileInput)
      (hsplit : inputs = before ++ input :: behind)
      (hbehind : ∀ other ∈ behind, target other ≠ target input) : left input = document input := by
    refine hlast before input behind hsplit fun other hother hstem => ?_
    exact hbehind other hother ((htarget other input).2 hstem)
  refine ⟨hdocuments, hkeeps, htarget, hleft, fun hall => ?_, fun hshared input hinput => ?_⟩
  · intro input hinput other hother hstem
    rw [← hall input hinput, ← hall other hother]
    unfold left
    rw [(htarget input other).2 hstem]
  · -- what is left at a path is the document of the last file that goes there
    obtain ⟨before, last, behind, hsplit, hgoes, hbehind⟩ :=
      exists_last (p := fun other => target other = target input) ⟨input, hinput, rfl⟩
    have hlastLeft := hleft before last behind hsplit fun other hother hsame =>
      hbehind other hother (hsame.trans hgoes)
    have hmem : last ∈ inputs := by
      rw [hsplit]
      exact List.mem_append_right _ (List.mem_cons_self ..)
    rw [hshared input hinput last hmem ((htarget input last).1 hgoes.symm), ← hlastLeft]
    unfold left
    rw [hgoes]

section Pages

/-- The text of a project with one empty section. -/
def pageText (name : String) : String :=
  let h : Json := .obj [("id", .str "h"), ("name", .str "h"), ("slug", .str "h")]
  (Json.obj [("name", .str name), ("sections", .obj [("h", h)])]).compact

/-- A directory with a project file, and below it one with another project file. -/
def pages (name : String) : Console :=
  ⟨⟨.ofList [("/pages", .directory), ("/pages/a.page.json", .file (.text (pageText "A"))),
    ("/pages/nested", .directory), ("/pages/nested/" ++ name, .file (.text (pageText "B")))]⟩,
    "", ""⟩

def pagesEnvironment : Environment where
  workDir := "/"
  tempDir := "/tmp"
  input := ""
  now := ⟨0, 0⟩
  sessionKey := "oracle"
  stepTime _ := 0
  packing := Frame.packing

def pagesInputs (name : String) : List CompileInput :=
  [⟨"/pages/a.page.json", "a.page.json"⟩, ⟨"/pages/nested/" ++ name, "nested/" ++ name⟩]

theorem filesBelow_of_ordered {t : FileTree} {place : List String}
    {files : List (List String × Blob)}
    (hfiles : (t.entries.entries.filterMap fun e =>
      match e.2, FileTree.namesBelow? place e.1 with
      | .file contents, some names => some (names, contents)
      | _, _ => none) = files)
    (hordered : files.Pairwise fun a b => namesLe a.1 b.1 = true) :
    t.filesBelow place = files := by
  calc t.filesBelow place
      = files.mergeSort fun a b => namesLe a.1 b.1 := congrArg (List.mergeSort · _) hfiles
    _ = files := List.mergeSort_of_pairwise hordered

theorem pages_inputs {name : String} (hname : name = "a.page.json" ∨ name = "b.page.json") :
    compileInputs? (pages name).files "/pages" = some (pagesInputs name) := by
  have hbelow : (pages name).files.filesBelow ["pages"] =
      [(["a.page.json"], .text (pageText "A")), (["nested", name], .text (pageText "B"))] := by
    refine filesBelow_of_ordered ?_ ?_
    · rcases hname with rfl | rfl <;> decide +kernel
    · rcases hname with rfl | rfl <;> decide +kernel
  have hlocate : (pages name).files.locate "/pages" = .ok ["pages"] := by
    rcases hname with rfl | rfl <;> rfl
  have hentry : (pages name).files.entry? ["pages"] = some .directory := by
    rcases hname with rfl | rfl <;> decide +kernel
  unfold compileInputs?
  rw [hlocate]
  dsimp only
  rw [hentry]
  dsimp only
  rw [projectFilesBelow, hbelow]
  rcases hname with rfl | rfl <;> decide +kernel

theorem pages_run {name : String} (hname : name = "a.page.json" ∨ name = "b.page.json") :
    (Task.config pagesEnvironment (pages name)).1 = .ok {} ∧
      (Task.compile pagesEnvironment {} (pages name)).1 = .ok () := by
  have hconfig : (Task.config pagesEnvironment (pages name)).1 = .ok {} := by
    refine config_of_absent ?_
    rcases hname with rfl | rfl <;> decide +kernel
  refine ⟨hconfig, ?_⟩
  have hpath : pagesEnvironment.path "pages" = "/pages" := by decide +kernel
  obtain ⟨failed, exported, hall⟩ := compileAll_counts pagesEnvironment {} {}
    (pagesEnvironment.path "dist") (pagesInputs name) (announced (pages name) 2)
  have hnone : (compileAll pagesEnvironment {} {} (pagesEnvironment.path "dist") (pagesInputs name)
      (announced (pages name) 2)).1.toOption = some 0 := by
    rcases hname with rfl | rfl <;> decide +kernel
  rw [hall] at hnone
  obtain rfl := Option.some.inj hnone
  have hinputs := pages_inputs hname
  rw [← hpath] at hinputs
  obtain ⟨out, hrun⟩ := @compile_run pagesEnvironment {} {} (pages name) _ rfl hconfig hinputs
    (List.cons_ne_nil _ _) _ _ hall
  rw [hrun]
  rfl

/-- The two projects have different documents, since their names are different. -/
theorem pages_documents_ne {name : String} (hname : name = "a.page.json" ∨ name = "b.page.json")
    {html : String}
    (h : documentAt? pagesEnvironment {} false (pages name).files "/pages/a.page.json" = some html) :
    documentAt? pagesEnvironment {} false (pages name).files ("/pages/nested/" ++ name) ≠
      some html := by
  intro hother
  obtain ⟨text, r, htext, hr, hhtml⟩ := documentAt?_eq_some h
  obtain ⟨text', r', htext', hr', hhtml'⟩ := documentAt?_eq_some hother
  have hA : (pages name).files.readText "/pages/a.page.json" = .ok (pageText "A") := by
    rcases hname with rfl | rfl <;> rfl
  have hB : (pages name).files.readText ("/pages/nested/" ++ name) = .ok (pageText "B") := by
    rcases hname with rfl | rfl <;> rfl
  obtain rfl := Except.ok.inj (htext.symm.trans hA)
  obtain rfl := Except.ok.inj (htext'.symm.trans hB)
  have hnames : ((importProject pagesEnvironment.now (pageText "A")).toOption.map (·.name) =
      some "A") ∧ ((importProject pagesEnvironment.now (pageText "B")).toOption.map (·.name) =
        some "B") := by decide +kernel
  rw [hr, hr'] at hnames
  have htitle : r.name = r'.name := title_of_document (by rfl) (by rfl) hhtml hhtml'
  have hfirst : r.name = "A" := Option.some.inj hnames.1
  have hsecond : r'.name = "B" := Option.some.inj hnames.2
  rw [hfirst, hsecond] at htitle
  exact absurd htitle (by decide)

theorem pages_no_documents (name other : String) :
    (pages other).files.entry? ["dist", name] = none := by
  have hkeys : ∀ key ∈ ["/pages", "/pages/a.page.json", "/pages/nested", "/pages/nested/" ++ other],
      key.toList[1]? = some 'p' := by simp
  have hdist : FileTree.keyOf ["dist"] = "/dist" := by decide
  have hkey : FileTree.keyOf ["dist", name] = "/dist" ++ "/" ++ name := by
    rw [← hdist, ← FileTree.keyOf_concat]
    rfl
  rw [FileTree.find_eq _ (List.cons_ne_nil _ _), hkey]
  refine SortedMap.get?_eq_none fun hmem => ?_
  obtain ⟨entry, hentry, hname⟩ := List.mem_map.1 hmem
  have hpage := hkeys entry.1 (List.mem_map_of_mem (SortedMap.mem_of_mem_ofList hentry))
  rw [hname] at hpage
  simp at hpage

/-- Of two projects in files of one name the run succeeds, and the document of the first one is
nowhere among the documents. -/
theorem compile_overwrites_document :
    let first := "/pages/a.page.json"
    let second := "/pages/nested/a.page.json"
    let files := (pages "a.page.json").files
    let run := Task.compile pagesEnvironment {} (pages "a.page.json")
    compileInputs? files "/pages" =
        some [⟨first, "a.page.json"⟩, ⟨second, "nested/a.page.json"⟩] ∧
      run.1 = .ok () ∧ documentPath "/dist" first = documentPath "/dist" second ∧
      ∃ html, documentAt? pagesEnvironment {} false files first = some html ∧
        ∀ name, '/' ∉ name.toList →
          run.2.files.entry? ["dist", name] ≠ some (.file (.text html)) := by
  intro first second files run
  have hinputs : compileInputs? files "/pages" = some (pagesInputs "a.page.json") :=
    pages_inputs (Or.inl rfl)
  obtain ⟨hconfig, hok⟩ := pages_run (Or.inl rfl)
  obtain ⟨config, inputs, hconfig', hinputs', hkeeps, hdocuments, hlast⟩ := compile_exports rfl hok
  obtain rfl := Except.ok.inj (hconfig.symm.trans hconfig')
  have hpages : pagesEnvironment.path "pages" = "/pages" := by decide +kernel
  have htarget : documentPath (pagesEnvironment.path "dist") second = "/dist/a.html" := by
    decide +kernel
  change compileInputs? files (pagesEnvironment.path "pages") = some inputs at hinputs'
  rw [hpages, hinputs] at hinputs'
  obtain rfl := Option.some.inj hinputs'
  obtain ⟨html, hhtml⟩ := Option.isSome_iff_exists.1 (hdocuments _ (List.mem_cons_self ..))
  obtain ⟨html', hhtml'⟩ := Option.isSome_iff_exists.1
    (hdocuments ⟨second, "nested/a.page.json"⟩ (List.mem_cons_of_mem _ (List.mem_singleton_self _)))
  have hne : html' ≠ html := by
    rintro rfl
    exact pages_documents_ne (Or.inl rfl) hhtml hhtml'
  refine ⟨hinputs, hok, by decide +kernel, html, hhtml, fun name hslash hentry => ?_⟩
  by_cases hname : name = "a.html"
  · -- at that path there is the document of the second file
    have hlater : (run.2.files.readText "/dist/a.html").toOption = some html' := by
      rw [← htarget, ← hhtml']
      exact hlast [⟨first, "a.page.json"⟩] ⟨second, "nested/a.page.json"⟩ [] rfl
        (List.forall_mem_nil _)
    have hread : run.2.files.readText "/dist/a.html" = .ok html' := ok_of_toOption hlater
    obtain ⟨place, hlocate, hplace⟩ :=
      FileTree.lookup_ok (FileTree.lookup_of_readText hread)
    rw [FileTree.locate_names (by decide) hlocate] at hplace
    rw [hname] at hentry
    have hsame := FileEntry.file.inj (Option.some.inj (hplace.symm.trans hentry))
    exact hne (Blob.text_inj.1 hsame)
  · -- no other document was written, and before the run there was none
    have hnames : (pagesInputs "a.page.json").map (fun input => documentName input.path) =
        ["a.html", "a.html"] := by decide +kernel
    have hfree : ¬ FileTree.Named ["a.html", "a.html"] (["dist"] ++ [name]) := by
      rw [FileTree.named_concat_iff (by decide) hslash]
      simp [hname]
    rw [hnames] at hkeeps
    have hbefore : files.entry? ["dist", name] = some (.file (.text html)) :=
      (hkeeps.files _ hfree _).1 hentry
    rw [pages_no_documents] at hbefore
    cases hbefore

/-- Two projects in files of different names keep their documents. -/
theorem compile_keeps_documents_iff_two_names :
    let first := "/pages/a.page.json"
    let second := "/pages/nested/b.page.json"
    let run := Task.compile pagesEnvironment {} (pages "b.page.json")
    run.1 = .ok () ∧ documentPath "/dist" first = "/dist/a.html" ∧
      documentPath "/dist" second = "/dist/b.html" ∧
      ∃ html html', html ≠ html' ∧ run.2.files.readText "/dist/a.html" = .ok html ∧
        run.2.files.readText "/dist/b.html" = .ok html' ∧
        documentAt? pagesEnvironment {} false (pages "b.page.json").files first = some html ∧
        documentAt? pagesEnvironment {} false (pages "b.page.json").files second = some html' := by
  intro first second run
  obtain ⟨hconfig, hok⟩ := pages_run (Or.inr rfl)
  obtain ⟨config, inputs, hconfig', hinputs, hdocuments, -, -, -, hall⟩ :=
    compile_keeps_documents_iff pagesEnvironment {} (pages "b.page.json") rfl hok
  obtain rfl := Except.ok.inj (hconfig.symm.trans hconfig')
  have hpages : pagesEnvironment.path "pages" = "/pages" := by decide +kernel
  change compileInputs? _ (pagesEnvironment.path "pages") = some inputs at hinputs
  rw [hpages, pages_inputs (Or.inr rfl)] at hinputs
  obtain rfl := Option.some.inj hinputs
  have hfirst : documentPath (pagesEnvironment.path "dist") first = "/dist/a.html" := by
    decide +kernel
  have hsecond : documentPath (pagesEnvironment.path "dist") second = "/dist/b.html" := by
    decide +kernel
  have hown : ∀ input ∈ pagesInputs "b.page.json", ∀ other ∈ pagesInputs "b.page.json",
      projectStem input.path = projectStem other.path → input = other := by decide +kernel
  have hleft := hall.2 fun input hinput other hother hstem => by
    rw [hown input hinput other hother hstem]
  have hmem : (⟨first, "a.page.json"⟩ : CompileInput) ∈ pagesInputs "b.page.json" ∧
      ⟨second, "nested/b.page.json"⟩ ∈ pagesInputs "b.page.json" := by decide +kernel
  obtain ⟨html, hhtml⟩ := Option.isSome_iff_exists.1 (hdocuments _ hmem.1)
  obtain ⟨html', hhtml'⟩ := Option.isSome_iff_exists.1 (hdocuments _ hmem.2)
  have hfirstLeft := hleft _ hmem.1
  have hsecondLeft := hleft _ hmem.2
  rw [hhtml] at hfirstLeft
  rw [hhtml'] at hsecondLeft
  have hread := ok_of_toOption hfirstLeft
  have hread' := ok_of_toOption hsecondLeft
  refine ⟨hok, by decide +kernel, by decide +kernel, html, html', ?_, ?_, ?_, hhtml, hhtml'⟩
  · rintro rfl
    exact pages_documents_ne (Or.inr rfl) hhtml hhtml'
  · rw [← hfirst]
    exact hread
  · rw [← hsecond]
    exact hread'

end Pages

end Task

end PageBuilder
