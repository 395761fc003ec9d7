import PageBuilder.Files.Tree
import PageBuilder.Machine
import PageBuilder.Proofs.SortedMap
import PageBuilder.Proofs.Text.Cut

/-!
Files read after they are written. Writing puts a file where no directory stands, so every way
through directories leads where it led before, and the same path leads to the file.
-/

namespace PageBuilder

section Paths

/-- A path has a last step. -/
theorem pathSteps_eq (path : String) :
    pathSteps path = (pathSteps path).dropLast ++ [(pathSteps path).getLast?.getD ""] := by
  have hne : pathSteps path ≠ [] := by
    rw [pathSteps, ne_eq, List.map_eq_nil_iff]
    exact splitOnChar_ne_nil _ _
  rw [List.getLast?_eq_some_getLast hne, Option.getD_some, List.dropLast_concat_getLast hne]

end Paths

namespace FileTree

variable {t t' : FileTree} {place : List String}

theorem enter_ok : t.enter place = .ok () ↔ t.entry? place = some .directory := by
  rw [enter]
  split <;> simp_all

/-- The directories of a tree are directories of another one, too. -/
def KeepsDirectories (t t' : FileTree) : Prop :=
  ∀ place, t.entry? place = some .directory → t'.entry? place = some .directory

namespace KeepsDirectories

/-- A step only needs a directory to start from. -/
theorem step (h : t.KeepsDirectories t') (place : List String) (name : String)
    (next : List String) (hstep : t.step place name = .ok next) :
    t'.step place name = .ok next := by
  rw [FileTree.step] at hstep ⊢
  obtain ⟨⟨⟩, henter, hnext⟩ := bind_ok hstep
  have hthere : t'.enter place = .ok () := enter_ok.2 (h place (enter_ok.1 henter))
  rw [hthere]
  exact hnext

theorem follow (h : t.KeepsDirectories t') {steps : List String}
    (hfollow : t.follow steps = .ok place) : t'.follow steps = .ok place :=
  foldlM_ok h.step hfollow

end KeepsDirectories

theorem root_isDirectory (t : FileTree) : t.entry? [] = some .directory := rfl

theorem ne_nil_of_no_directory (h : t.entry? place ≠ some .directory) : place ≠ [] := by
  rintro rfl
  exact h t.root_isDirectory

theorem find_eq (t : FileTree) (hplace : place ≠ []) :
    t.entry? place = t.entries.get? (keyOf place) := by
  unfold entry?
  rw [List.isEmpty_eq_false_iff.2 hplace, if_neg Bool.false_ne_true]

theorem find_set (t : FileTree) (place : List String) (entry : FileEntry) {other : List String}
    (hother : other ≠ []) : FileTree.entry? (t.set place entry) other =
      if keyOf other = keyOf place then some entry else t.entry? other := by
  rw [find_eq _ hother, find_eq _ hother, set, SortedMap.get?_insert]

/-- Setting what is no directory hides none. -/
theorem keepsDirectories_set (h : t.entry? place ≠ some .directory) (entry : FileEntry) :
    t.KeepsDirectories (t.set place entry) := by
  intro other hother
  by_cases hroot : other = []
  · rw [hroot, root_isDirectory]
  · have hkey : keyOf other ≠ keyOf place := by
      -- two places with one key have the same entry
      intro hkey
      apply h
      rw [find_eq t (ne_nil_of_no_directory h), ← hkey, ← find_eq t hroot, hother]
    rw [find_set t place entry hroot, if_neg hkey, hother]

theorem parent_ok {steps : List String} {way : List String} {name : String}
    (h : t.parent steps = .ok (way, name)) :
    t.follow steps.dropLast = .ok way ∧ steps.getLast?.getD "" = name := by
  rw [parent] at h
  obtain ⟨place, hplace, h⟩ := bind_ok h
  obtain ⟨⟨⟩, -, h⟩ := bind_ok h
  cases h
  exact ⟨hplace, rfl⟩

/-- A file is written where its path leads. -/
theorem write_ok {path : String} {contents : Blob} (h : t.write path contents = .ok t') :
    ∃ place, t.locate path = .ok place ∧ t.entry? place ≠ some .directory ∧
      t' = t.set place (.file contents) := by
  rw [write] at h
  obtain ⟨⟨⟩, hcheck, h⟩ := bind_ok h
  obtain ⟨⟨way, name⟩, hparent, h⟩ := bind_ok h
  cases hend : endsWith path "/" with
  | true =>
    simp only [hend, if_true] at h
    cases h
  | false =>
    have hpath : withoutEnd '/' path = path := withoutEnd_eq hend
    rw [hpath] at hparent
    obtain ⟨hway, hname⟩ := parent_ok hparent
    simp only [hend, Bool.false_eq_true, if_false] at h
    obtain ⟨place, hstep, h⟩ := bind_ok h
    have hlocate : t.locate path = .ok place := by
      rw [locate, hcheck, pathSteps_eq path, hname]
      change t.follow ((pathSteps path).dropLast ++ [name]) = .ok place
      rw [follow] at hway ⊢
      rw [List.foldlM_append, hway]
      change List.foldlM t.step way [name] = .ok place
      rw [List.foldlM_cons, hstep]
      rfl
    refine ⟨place, hlocate, ?_⟩
    split at h
    · cases h
    · cases h
      exact ⟨‹_›, rfl⟩

theorem KeepsDirectories.locate (h : t.KeepsDirectories t') {path : String}
    (hlocate : t.locate path = .ok place) : t'.locate path = .ok place := by
  rw [FileTree.locate] at hlocate ⊢
  obtain ⟨⟨⟩, hcheck, hfollow⟩ := bind_ok hlocate
  rw [hcheck]
  exact h.follow hfollow

/-- What is written to a path is found there. -/
theorem lookup_write {path : String} {contents : Blob} (h : t.write path contents = .ok t') :
    t'.lookup path = .ok (.file contents) := by
  obtain ⟨place, hlocate, hnew, rfl⟩ := write_ok h
  have hthere := (keepsDirectories_set hnew (.file contents)).locate hlocate
  have hentry := find_set t place (.file contents) (ne_nil_of_no_directory hnew)
  rw [if_pos rfl] at hentry
  rw [lookup, hthere]
  simp only [bind, Except.bind, hentry]
  rfl

theorem readText_write {path s : String} (h : t.write path (.text s) = .ok t') :
    t'.readText path = .ok s := by
  simp only [readText, lookup_write h, bind, Except.bind, FileEntry.contents, Blob.text?_text]
  rfl

end FileTree

end PageBuilder
