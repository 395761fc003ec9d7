import PageBuilder.Files.Directories
import PageBuilder.Proofs.Files.Tree

/-!
What operations on files leave as it was. Making directories changes no entry, and writing changes
only files with the last name of the path that is written to.
-/

namespace PageBuilder

section Names

variable {path base name : String} {way : List String}

theorem pathSteps_append (base path : String) :
    pathSteps (base ++ "/" ++ path) = pathSteps base ++ pathSteps path := by
  have hcut : (base ++ "/" ++ path).toList = base.toList ++ '/' :: path.toList := by
    rw [String.toList_append, String.toList_append, List.append_assoc]
    rfl
  rw [pathSteps, hcut, splitOnChar_append, List.map_append]
  rfl

theorem pathSteps_of_not_mem (h : '/' ∉ name.toList) : pathSteps name = [name] := by
  rw [pathSteps, splitOnChar_of_not_mem h, List.map_singleton, String.ofList_toList]

theorem not_mem_of_mem_pathSteps (h : name ∈ pathSteps path) : '/' ∉ name.toList := by
  obtain ⟨part, hpart, rfl⟩ := List.mem_map.1 h
  rw [String.toList_ofList]
  exact not_mem_of_mem_splitOnChar hpart

/-- A name below a path is the last step of the whole. -/
theorem pathSteps_joinPath (h : '/' ∉ name.toList) (base : String) :
    ∃ way, pathSteps (joinPath base name) = way ++ [name] := by
  have hsteps := pathSteps_of_not_mem h
  have hstart : startsWith name "/" = false := by
    rw [Bool.eq_false_iff]
    intro hfront
    obtain ⟨rest, hrest⟩ := List.isPrefixOf_iff_prefix.1 hfront
    refine h ?_
    rw [← hrest]
    exact List.mem_cons_self ..
  unfold joinPath
  rw [hstart, Bool.false_or]
  split
  · exact ⟨[], hsteps⟩
  · split
    · next hend =>
      obtain ⟨front, hfront⟩ := List.isSuffixOf_iff_suffix.1 hend
      have hbase : base = String.ofList front ++ "/" := by
        rw [← String.toList_inj, String.toList_append, String.toList_ofList, hfront]
      rw [hbase, pathSteps_append, hsteps]
      exact ⟨_, rfl⟩
    · rw [pathSteps_append, hsteps]
      exact ⟨_, rfl⟩

theorem lastName?_of_steps (h : pathSteps path = way ++ [name]) (hidle : isIdleStep name = false)
    (hup : name ≠ "..") : lastName? path = some name := by
  rw [lastName?, h, List.filter_append, List.filter_cons_of_pos (by rw [hidle]; rfl),
    List.filter_nil, List.getLast?_concat, Option.filter_some_pos (by simpa using hup)]

theorem lastName?_not_mem (h : lastName? path = some name) : '/' ∉ name.toList := by
  rw [lastName?] at h
  have hlast := (Option.filter_eq_some_iff.1 h).1
  exact not_mem_of_mem_pathSteps (List.mem_of_mem_filter (List.mem_of_getLast? hlast))

end Names

namespace FileTree

variable {t t' t'' : FileTree} {path name : String} {place way : List String}

theorem step_ok (h : t.step way name = .ok place) : t.entry? way = some .directory ∧
    (isIdleStep name = true ∧ place = way ∨
      name = ".." ∧ place = way.dropLast ∨
      isIdleStep name = false ∧ name ≠ ".." ∧ place = way ++ [name]) := by
  rw [step] at h
  obtain ⟨⟨⟩, henter, hnext⟩ := bind_ok h
  refine ⟨enter_ok.1 henter, ?_⟩
  cases hidle : isIdleStep name with
  | true =>
    simp only [hidle, if_true] at hnext
    cases hnext
    exact Or.inl ⟨rfl, rfl⟩
  | false =>
    simp only [hidle, Bool.false_eq_true, if_false] at hnext
    split at hnext
    · next hup =>
      cases hnext
      exact Or.inr (Or.inl ⟨hup, rfl⟩)
    · next hup =>
      split at hnext
      · cases hnext
      · cases hnext
        exact Or.inr (Or.inr ⟨rfl, hup, rfl⟩)

/-- A path leads to a place with the path's last name, unless a directory stands there. -/
theorem locate_ends (hlocate : t.locate path = .ok place) (hname : lastName? path = some name)
    (hplace : t.entry? place ≠ some .directory) : ∃ way, place = way ++ [name] := by
  rw [locate] at hlocate
  obtain ⟨⟨⟩, -, hfollow⟩ := bind_ok hlocate
  have hsteps := pathSteps_eq path
  generalize (pathSteps path).getLast?.getD "" = last at hsteps
  rw [hsteps, follow, List.foldlM_append] at hfollow
  obtain ⟨way, -, hlast⟩ := bind_ok hfollow
  rw [List.foldlM_cons] at hlast
  obtain ⟨reached, hstep, hreached⟩ := bind_ok hlast
  cases hreached
  obtain ⟨hway, ⟨hidle, rfl⟩ | ⟨rfl, -⟩ | ⟨hidle, hup, rfl⟩⟩ := step_ok hstep
  · exact absurd hway hplace
  · -- a path that ends with a step up has no last name
    rw [lastName?, hsteps, List.filter_append] at hname
    rw [List.filter_cons_of_pos (by decide), List.filter_nil, List.getLast?_concat] at hname
    cases hname
  · rw [lastName?_of_steps hsteps hidle hup] at hname
    cases hname
    exact ⟨way, rfl⟩

/-- Steps that never go up lead to their names. -/
theorem follow_names {steps : List String} (hup : ".." ∉ steps)
    (h : steps.foldlM t.step way = .ok place) :
    place = way ++ steps.filter fun step => !isIdleStep step := by
  induction steps generalizing way with
  | nil =>
    have hplace : way = place := Except.ok.inj h
    rw [← hplace, List.filter_nil, List.append_nil]
  | cons name rest ih =>
    rw [List.foldlM_cons] at h
    obtain ⟨next, hstep, hrest⟩ := bind_ok h
    rw [ih (fun hmem => hup (List.mem_cons_of_mem _ hmem)) hrest]
    obtain ⟨-, ⟨hidle, rfl⟩ | ⟨rfl, -⟩ | ⟨hidle, -, rfl⟩⟩ := step_ok hstep
    · rw [List.filter_cons_of_neg (by simp [hidle])]
    · exact absurd (List.mem_cons_self ..) hup
    · rw [List.filter_cons_of_pos (by simp [hidle]), List.append_assoc, List.singleton_append]

theorem locate_names (hup : ".." ∉ pathSteps path) (h : t.locate path = .ok place) :
    place = (pathSteps path).filter fun step => !isIdleStep step := by
  rw [locate] at h
  obtain ⟨⟨⟩, -, hfollow⟩ := bind_ok h
  exact follow_names hup hfollow

theorem lookup_ok {entry : FileEntry} (h : t.lookup path = .ok entry) :
    ∃ place, t.locate path = .ok place ∧ t.entry? place = some entry := by
  rw [lookup] at h
  obtain ⟨place, hlocate, hentry⟩ := bind_ok h
  refine ⟨place, hlocate, ?_⟩
  split at hentry
  · next found hfound =>
    cases hentry
    exact hfound
  · cases hentry

theorem keyOf_concat (way : List String) (name : String) :
    keyOf (way ++ [name]) = keyOf way ++ "/" ++ name := by
  have hcons (step : String) (rest : List String) :
      keyOf (step :: rest) = "/" ++ step ++ keyOf rest := rfl
  have hnil : keyOf [] = "" := rfl
  induction way with
  | nil => rw [List.nil_append, hcons, hnil, String.append_empty, String.empty_append]
  | cons step way ih => simp only [List.cons_append, hcons, ih, String.append_assoc]

/-- Places of files with different names have different keys. -/
theorem keyOf_concat_inj {other : List String} {name' : String} (hname : '/' ∉ name.toList)
    (hname' : '/' ∉ name'.toList) (h : keyOf (way ++ [name]) = keyOf (other ++ [name'])) :
    name = name' := by
  rw [← String.toList_inj, keyOf_concat, keyOf_concat] at h
  simp only [String.toList_append, List.append_assoc] at h
  exact String.toList_inj.1 (append_cons_inj_right hname hname' h)

/-- A place of an entry with one of some names. -/
def Named (names : List String) (place : List String) : Prop :=
  ∃ name ∈ names, ∃ way, keyOf place = keyOf (way ++ [name])

theorem named_concat_iff {names : List String} (hnames : ∀ other ∈ names, '/' ∉ other.toList)
    (hname : '/' ∉ name.toList) : Named names (way ++ [name]) ↔ name ∈ names := by
  constructor
  · rintro ⟨other, hother, way', hkey⟩
    rw [keyOf_concat_inj hname (hnames other hother) hkey]
    exact hother
  · exact fun hmem => ⟨name, hmem, way, rfl⟩

/-- Directories stay, and files are the same except for those with some names. -/
structure KeepsBut (names : List String) (t t' : FileTree) : Prop where
  directories : t.KeepsDirectories t'
  files : ∀ place, ¬ Named names place → ∀ contents,
    t'.entry? place = some (.file contents) ↔ t.entry? place = some (.file contents)

namespace KeepsBut

variable {names more : List String}

theorem refl (names : List String) (t : FileTree) : t.KeepsBut names t :=
  ⟨fun _ h => h, fun _ _ _ => Iff.rfl⟩

theorem trans (h : t.KeepsBut names t') (h' : t'.KeepsBut names t'') : t.KeepsBut names t'' :=
  ⟨fun place hplace => h'.directories place (h.directories place hplace),
    fun place hfree contents => (h'.files place hfree contents).trans (h.files place hfree contents)⟩

theorem mono (h : t.KeepsBut names t') (hmore : names ⊆ more) : t.KeepsBut more t' :=
  ⟨h.directories, fun place hfree =>
    h.files place fun ⟨name, hname, hway⟩ => hfree ⟨name, hmore hname, hway⟩⟩

/-- A file is found at the same path, unless its name is one of the given ones. -/
theorem lookup (h : t.KeepsBut names t') (hnames : ∀ other ∈ names, '/' ∉ other.toList)
    (hname : lastName? path = some name) (hfree : name ∉ names) {contents : Blob}
    (hfile : t.lookup path = .ok (.file contents)) : t'.lookup path = .ok (.file contents) := by
  obtain ⟨place, hlocate, hthere⟩ := lookup_ok hfile
  obtain ⟨way, rfl⟩ := locate_ends hlocate hname (by rw [hthere]; simp)
  have hplace : ¬ Named names (way ++ [name]) :=
    mt (named_concat_iff hnames (lastName?_not_mem hname)).1 hfree
  have hkept : t'.entry? (way ++ [name]) = some (.file contents) :=
    (h.files _ hplace contents).2 hthere
  rw [FileTree.lookup, h.directories.locate hlocate]
  simp only [bind, Except.bind, hkept]
  rfl

theorem readText_eq (h : t.KeepsBut names t') (hnames : ∀ other ∈ names, '/' ∉ other.toList)
    (hname : lastName? path = some name) (hfree : name ∉ names) {contents : Blob}
    (hfile : t.lookup path = .ok (.file contents)) : t'.readText path = t.readText path := by
  rw [readText, readText, hfile, h.lookup hnames hname hfree hfile]

end KeepsBut

theorem isFile_iff : t.isFile path = true ↔ ∃ contents, t.lookup path = .ok (.file contents) := by
  unfold isFile
  constructor
  · intro h
    split at h
    · next contents hlookup => exact ⟨contents, hlookup⟩
    · cases h
  · rintro ⟨contents, hlookup⟩
    rw [hlookup]

theorem lookup_of_readText {s : String} (h : t.readText path = .ok s) :
    t.lookup path = .ok (.file (.text s)) := by
  rw [readText] at h
  obtain ⟨entry, hlookup, h⟩ := bind_ok h
  obtain ⟨contents, hcontents, h⟩ := bind_ok h
  cases entry with
  | directory => cases hcontents
  | file =>
    obtain rfl := Except.ok.inj hcontents
    split at h
    · next text htext =>
      obtain rfl := Except.ok.inj h
      rw [hlookup, Blob.text?_eq_some_iff.1 htext]
    · cases h

/-- Writing changes only files with the last name of the path. -/
theorem write_keepsBut {contents : Blob} (hname : lastName? path = some name)
    (h : t.write path contents = .ok t') : t.KeepsBut [name] t' := by
  obtain ⟨place, hlocate, hnew, rfl⟩ := write_ok h
  obtain ⟨way, rfl⟩ := locate_ends hlocate hname hnew
  refine ⟨keepsDirectories_set hnew (.file contents), fun other hfree found => ?_⟩
  by_cases hroot : other = []
  · rw [hroot, root_isDirectory, root_isDirectory]
  · have hkey : keyOf other ≠ keyOf (way ++ [name]) :=
      fun hkey => hfree ⟨name, List.mem_singleton_self name, way, hkey⟩
    rw [find_set t _ _ hroot, if_neg hkey]

section Directories

variable {steps : List String}

/-- Making a directory takes a free place. -/
theorem makeAt_keepsBut (h : t.makeAt steps = .ok t') : t.KeepsBut [] t' := by
  rw [makeAt] at h
  obtain ⟨⟨way, name⟩, -, h⟩ := bind_ok h
  dsimp only at h
  split at h
  · cases h
  obtain ⟨place, -, h⟩ := bind_ok h
  split at h
  · cases h
  next hfree =>
  cases h
  have hnone : t.entry? place = none := by simpa using hfree
  have hplace : t.entry? place ≠ some .directory := by
    rw [hnone]
    simp
  refine ⟨keepsDirectories_set hplace .directory, fun other _ found => ?_⟩
  by_cases hroot : other = []
  · rw [hroot, root_isDirectory, root_isDirectory]
  · rw [find_set t _ _ hroot]
    split
    · next hkey =>
      -- neither before nor behind there is a file at the new directory
      rw [find_eq t hroot, hkey, ← find_eq t (ne_nil_of_no_directory hplace), hnone]
      simp
    · exact Iff.rfl

theorem ensureAt_keepsBut (t : FileTree) (steps : List String) :
    t.KeepsBut [] (t.ensureAt steps).2 := by
  unfold ensureAt
  split
  · next made hmade => exact makeAt_keepsBut hmade
  · exact .refl [] t

theorem ensureWithin_keepsBut {makeOuter : FileTree → Except FileError Unit × FileTree}
    (houter : ∀ t : FileTree, t.KeepsBut [] (makeOuter t).2) (t : FileTree) (steps : List String) :
    t.KeepsBut [] (t.ensureWithin steps makeOuter).2 := by
  have hfirst := ensureAt_keepsBut t steps
  unfold ensureWithin
  split
  · next missing hmissing =>
    rw [hmissing] at hfirst
    have hmade := hfirst.trans (houter missing)
    split
    · next made hmade' =>
      rw [hmade'] at hmade
      exact hmade.trans (ensureAt_keepsBut made steps)
    · exact hmade
  · exact hfirst

theorem ensureAll_keepsBut (t : FileTree) (back : List String) :
    t.KeepsBut [] (t.ensureAll back).2 := by
  induction back generalizing t with
  | nil => exact .refl [] t
  | cons name back ih =>
    rw [ensureAll]
    split
    · exact ih t
    · exact ensureWithin_keepsBut ih t _

theorem makeDirectories_keepsBut (t : FileTree) (path : String) :
    t.KeepsBut [] (t.makeDirectories path).2 := by
  unfold makeDirectories
  split
  · exact .refl [] t
  · exact ensureWithin_keepsBut (fun t => ensureAll_keepsBut t _) t _

end Directories

end FileTree

end PageBuilder
