/-!
Finite maps from texts, kept as lists of entries in ascending order of their keys, each key once. A
map is determined by its entries. The numbers that belong to entries are added up to their total.
-/

namespace PageBuilder

/-- The entries come in strictly ascending order of their keys. -/
def Ascending {α : Type} (entries : List (String × α)) : Prop :=
  entries.Pairwise fun a b => a.1 < b.1

/-- The entries with `key` set to `value`, in order. -/
def insertEntry {α : Type} (key : String) (value : α) : List (String × α) → List (String × α)
  | [] => [(key, value)]
  | e :: rest =>
    if key < e.1 then (key, value) :: e :: rest
    else if key = e.1 then (key, value) :: rest
    else e :: insertEntry key value rest

theorem mem_insertEntry {α : Type} {key : String} {value : α} {e : String × α}
    {entries : List (String × α)} (h : e ∈ insertEntry key value entries) :
    e = (key, value) ∨ e ∈ entries := by
  induction entries with
  | nil => simpa [insertEntry] using h
  | cons x rest ih =>
    simp only [insertEntry] at h
    split at h
    · simpa using h
    · split at h
      · simp only [List.mem_cons] at h ⊢
        exact h.imp id Or.inr
      · simp only [List.mem_cons] at h ⊢
        rcases h with h | h
        · exact Or.inr (Or.inl h)
        · exact (ih h).imp id Or.inr

theorem ascending_insertEntry {α : Type} (key : String) (value : α) {entries : List (String × α)}
    (h : Ascending entries) : Ascending (insertEntry key value entries) := by
  induction entries with
  | nil => simp [insertEntry, Ascending]
  | cons x rest ih =>
    obtain ⟨hx, hrest⟩ := List.pairwise_cons.1 h
    simp only [insertEntry]
    split
    · next hk =>
      refine List.pairwise_cons.2 ⟨fun e he => ?_, h⟩
      rcases List.mem_cons.1 he with rfl | he
      · exact hk
      · exact String.lt_trans hk (hx e he)
    · next hk =>
      split
      · next heq =>
        subst heq
        exact List.pairwise_cons.2 ⟨fun e he => hx e he, hrest⟩
      · next hne =>
        refine List.pairwise_cons.2 ⟨fun e he => ?_, ih hrest⟩
        rcases mem_insertEntry he with rfl | he
        · exact String.not_le.1 fun hle => hne (String.le_antisymm hle (String.not_lt.1 hk))
        · exact hx e he

/-- A finite map from texts to `α`. -/
structure SortedMap (α : Type) where
  entries : List (String × α)
  ascending : Ascending entries

namespace SortedMap

variable {α β : Type}

@[ext] theorem ext {a b : SortedMap α} (h : a.entries = b.entries) : a = b := by
  cases a; cases b; cases h; rfl

def empty : SortedMap α := ⟨[], List.Pairwise.nil⟩

instance : Inhabited (SortedMap α) := ⟨empty⟩

def get? (m : SortedMap α) (key : String) : Option α := m.entries.lookup key

def contains (m : SortedMap α) (key : String) : Bool := (m.get? key).isSome

/-- The map with the value at `key` set. -/
def insert (m : SortedMap α) (key : String) (value : α) : SortedMap α :=
  ⟨insertEntry key value m.entries, ascending_insertEntry key value m.ascending⟩

/-- The map of a list of entries. Of two entries with one key the later one counts. -/
def ofList (entries : List (String × α)) : SortedMap α :=
  entries.foldl (fun m e => m.insert e.1 e.2) empty

def erase (m : SortedMap α) (key : String) : SortedMap α :=
  ⟨m.entries.filter fun e => e.1 ≠ key, m.ascending.filter _⟩

/-- The map without the entries that fail the test. -/
def filter (m : SortedMap α) (keep : String → α → Bool) : SortedMap α :=
  ⟨m.entries.filter fun e => keep e.1 e.2, m.ascending.filter _⟩

def mapValues (m : SortedMap α) (f : String → α → β) : SortedMap β :=
  ⟨m.entries.map fun e => (e.1, f e.1 e.2), by
    have h := m.ascending
    unfold Ascending at h ⊢
    exact List.pairwise_map.2 h⟩

def keys (m : SortedMap α) : List String := m.entries.map Prod.fst

/-- The values in ascending order of their keys. -/
def values (m : SortedMap α) : List α := m.entries.map Prod.snd

def size (m : SortedMap α) : Nat := m.entries.length

def isEmpty (m : SortedMap α) : Bool := m.entries.isEmpty

/-- Two maps have the same keys, with values that `eq` takes for equal. -/
def sameBy (eq : α → α → Bool) (a b : SortedMap α) : Bool :=
  a.size == b.size && (a.entries.zip b.entries).all fun p => p.1.1 == p.2.1 && eq p.1.2 p.2.2

end SortedMap

def total : List Nat → Nat
  | [] => 0
  | n :: rest => n + total rest

theorem total_perm {ms ns : List Nat} (h : ms.Perm ns) : total ms = total ns := by
  induction h with
  | nil => rfl
  | cons n _ ih => rw [total, total, ih]
  | swap m n rest =>
    simp only [total]
    omega
  | trans _ _ hfirst hsecond => exact hfirst.trans hsecond

end PageBuilder
