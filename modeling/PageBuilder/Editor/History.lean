/-!
Linear history of whole states. The past holds the states before each change and the future the
states left behind by undoing, both with the most recent one first; a new change clears the future.
-/

namespace PageBuilder

/-- A state, and the name of the change between it and its neighbour. -/
structure Snapshot (α : Type) where
  state : α
  label : String

/-- The states around the current one. At most `limit` are kept in the past when changes are
recorded; a limit of zero keeps all. -/
structure History (α : Type) where
  past : List (Snapshot α)
  future : List (Snapshot α)
  limit : Nat

namespace History

variable {α : Type}

def new (limit : Nat) : History α := ⟨[], [], limit⟩

def usualLimit : Nat := 100

/-- The history after a change away from the state `before`. -/
def push (h : History α) (before : α) (label : String) : History α :=
  let past := ⟨before, label⟩ :: h.past
  { h with
    past := if 0 < h.limit && h.limit < past.length then past.dropLast else past
    future := [] }

/-- The state before the last change, with `current` moved to the future. -/
def undo? (h : History α) (current : α) : Option (α × History α) :=
  match h.past with
  | [] => none
  | s :: past => some (s.state, { h with past := past, future := ⟨current, s.label⟩ :: h.future })

/-- The state that was undone last, with `current` moved to the past. -/
def redo? (h : History α) (current : α) : Option (α × History α) :=
  match h.future with
  | [] => none
  | s :: future => some (s.state, { h with past := ⟨current, s.label⟩ :: h.past, future := future })

def clear (h : History α) : History α := { h with past := [], future := [] }

/-- The name of the change that undoing takes back. -/
def undoLabel? (h : History α) : Option String := h.past.head?.map Snapshot.label

/-- The name of the change that redoing brings back. -/
def redoLabel? (h : History α) : Option String := h.future.head?.map Snapshot.label

end History

end PageBuilder
