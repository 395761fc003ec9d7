import PageBuilder.Proofs.Store.Records

/-!
Which entries a save takes away. Entries that cannot be read go first, then the ones that were
updated first, and of two updated at one time the one with the smaller key. Saving takes as few of
them in this order as the limits of the store ask for, unless the quota of the backend asks for more.
-/

namespace PageBuilder

/-- The time of an update comes before another one, and no time before any. -/
inductive Sooner : Option Instant → Option Instant → Prop where
  | unreadable (t : Instant) : Sooner none (some t)
  | earlier {s t : Instant} (hle : s.le t = true) (hne : s ≠ t) : Sooner (some s) (some t)

namespace Sooner

theorem trans {a b c : Option Instant} (hab : Sooner a b) (hbc : Sooner b c) : Sooner a c := by
  cases hab with
  | unreadable t =>
    cases hbc with
    | earlier hle hne => exact .unreadable _
  | earlier hab hne =>
    cases hbc with
    | earlier hbc hne' =>
      refine .earlier (Instant.le_trans hab hbc) ?_
      rintro rfl
      exact hne (Instant.le_antisymm hab hbc)

theorem total (a b : Option Instant) : Sooner a b ∨ a = b ∨ Sooner b a := by
  cases a with
  | none =>
    cases b with
    | none => exact Or.inr (Or.inl rfl)
    | some t => exact Or.inl (.unreadable t)
  | some s =>
    cases b with
    | none => exact Or.inr (Or.inr (.unreadable s))
    | some t =>
      by_cases hst : s = t
      · exact Or.inr (Or.inl (congrArg some hst))
      · rcases Instant.le_total s t with hle | hle
        · exact Or.inl (.earlier hle hst)
        · exact Or.inr (Or.inr (.earlier hle (Ne.symm hst)))

end Sooner

namespace StoredEntry

end StoredEntry

namespace ProjectStore

section Shelf

/-- A copy of a project, as it is stored at some second. -/
def copyAt (id : String) (seconds : Int) : ProjectRecord := plain.stamped id ⟨seconds, 0⟩ none

/-- A store for two records, with two copies and a value that is none. Nothing is compressed at its
level. -/
def shelf : ProjectStore MemoryBackend where
  backend := ⟨.ofList [("a", .text "spoiled"), ("b", (copyAt "b" 5).encode Frame.packing (-50)),
    ("c", (copyAt "c" 3).encode Frame.packing (-50))], none⟩
  config := { maxRecords := 2, compressionLevel := -50 }
  packing := Frame.packing

end Shelf

end ProjectStore

end PageBuilder
