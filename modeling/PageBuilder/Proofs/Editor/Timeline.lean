import PageBuilder.Editor.History
import Mathlib.Tactic.Common

/-!
The history of a session as a list with a cursor: the states before the current one from the oldest
on, the current one under the cursor, and the undone ones. Recording a change cuts off what follows
the cursor, undoing and redoing only move it, and redoing takes back what undoing did.
-/

namespace PageBuilder

variable {α : Type}

/-- A list of states with a cursor on one of them. -/
@[ext] structure Timeline (α : Type) where
  entries : List α
  cursor : Nat
  inBounds : cursor < entries.length

namespace Timeline

/-- The state under the cursor. -/
def now (t : Timeline α) : α := t.entries.get ⟨t.cursor, t.inBounds⟩

/-- The timeline with a new state behind the cursor. What followed the cursor is cut off, and the
oldest state is dropped if more than `limit` would stand before the new one. A limit of zero drops
nothing. -/
def record (limit : Nat) (t : Timeline α) (next : α) : Timeline α :=
  let before := t.entries.take (t.cursor + 1)
  let kept := if 0 < limit ∧ limit < before.length then before.tail else before
  ⟨kept ++ [next], kept.length, by simp⟩

/-- The timeline with another state under the cursor. -/
def replace (t : Timeline α) (next : α) : Timeline α :=
  ⟨t.entries.set t.cursor next, t.cursor, by simpa using t.inBounds⟩

/-- The timeline with the cursor one place towards the oldest state. -/
def back? (t : Timeline α) : Option (Timeline α) :=
  if t.cursor = 0 then none
  else some ⟨t.entries, t.cursor - 1, Nat.lt_of_le_of_lt (Nat.sub_le _ _) t.inBounds⟩

/-- The timeline with the cursor one place towards the newest state. -/
def forward? (t : Timeline α) : Option (Timeline α) :=
  if h : t.cursor + 1 < t.entries.length then some ⟨t.entries, t.cursor + 1, h⟩ else none

end Timeline

namespace History

/-- Undoing takes the newest state of the past and puts the current one in front of the future. -/
theorem undo?_eq_some {h h' : History α} {current previous : α}
    (hundo : h.undo? current = some (previous, h')) :
    ∃ label past, h.past = ⟨previous, label⟩ :: past ∧
      h' = ⟨past, ⟨current, label⟩ :: h.future, h.limit⟩ := by
  unfold undo? at hundo
  split at hundo
  · cases hundo
  · next s past hpast =>
    cases hundo
    exact ⟨s.label, past, hpast, rfl⟩

/-- Redoing takes the newest state of the future and puts the current one in front of the past. -/
theorem redo?_eq_some {h h' : History α} {current following : α}
    (hredo : h.redo? current = some (following, h')) :
    ∃ label future, h.future = ⟨following, label⟩ :: future ∧
      h' = ⟨⟨current, label⟩ :: h.past, future, h.limit⟩ := by
  unfold redo? at hredo
  split at hredo
  · cases hredo
  · next s future hfuture =>
    cases hredo
    exact ⟨s.label, future, hfuture, rfl⟩

/-- The states of a history around the current one, from the oldest on. -/
def timeline (h : History α) (current : α) : Timeline α :=
  ⟨(h.past.map Snapshot.state).reverse ++ current :: h.future.map Snapshot.state, h.past.length,
    by simp⟩

theorem timeline_now (h : History α) (current : α) : (h.timeline current).now = current := by
  simp [timeline, Timeline.now]

/-- The timeline up to the cursor is the past and the current state. -/
theorem timeline_take (h : History α) (current : α) :
    (h.timeline current).entries.take ((h.timeline current).cursor + 1) =
      (h.past.map Snapshot.state).reverse ++ [current] := by
  have hpast : (h.past.map Snapshot.state).reverse.take (h.past.length + 1) =
      (h.past.map Snapshot.state).reverse := List.take_of_length_le (by simp)
  simp [timeline, List.take_append, hpast]

/-- Recording a change keeps the states before it, without the oldest one if there are too many. -/
theorem push_past (h : History α) (current : α) (label : String) :
    ((h.push current label).past.map Snapshot.state).reverse =
      if 0 < h.limit ∧ h.limit < h.past.length + 1 then
        ((h.past.map Snapshot.state).reverse ++ [current]).tail
      else (h.past.map Snapshot.state).reverse ++ [current] := by
  have hfull : (decide (0 < h.limit) && decide (h.limit < h.past.length + 1)) = true ↔
      0 < h.limit ∧ h.limit < h.past.length + 1 := by
    rw [Bool.and_eq_true, decide_eq_true_iff, decide_eq_true_iff]
  simp only [push, List.length_cons, hfull]
  split
  · -- the past has its newest state first, so the oldest one is its last
    rw [List.map_dropLast, ← List.tail_reverse, List.map_cons, List.reverse_cons]
  · rw [List.map_cons, List.reverse_cons]

theorem timeline_push (h : History α) (current next : α) (label : String) :
    (h.push current label).timeline next = (h.timeline current).record h.limit next := by
  have htake := timeline_take h current
  have hlength : ((h.past.map Snapshot.state).reverse ++ [current]).length = h.past.length + 1 := by
    simp
  have hpast := push_past h current label
  have hentries : ((h.timeline current).record h.limit next).entries =
      ((h.push current label).past.map Snapshot.state).reverse ++ [next] := by
    simp only [Timeline.record, htake, hlength, hpast]
  have hcursor : ((h.timeline current).record h.limit next).cursor =
      ((h.push current label).past.map Snapshot.state).reverse.length := by
    simp only [Timeline.record, htake, hlength, hpast]
  ext1
  · rw [hentries]
    rfl
  · rw [hcursor, List.length_reverse, List.length_map]
    rfl

theorem timeline_replace (h : History α) (current next : α) :
    h.timeline next = (h.timeline current).replace next := by
  ext1
  · simp [timeline, Timeline.replace]
  · rfl

theorem timeline_undo {h h' : History α} {current previous : α}
    (hundo : h.undo? current = some (previous, h')) :
    (h.timeline current).back? = some (h'.timeline previous) := by
  obtain ⟨label, past, hpast, rfl⟩ := undo?_eq_some hundo
  simp [timeline, Timeline.back?, hpast]

theorem timeline_undo_none {h : History α} {current : α} (hundo : h.undo? current = none) :
    (h.timeline current).back? = none := by
  unfold undo? at hundo
  split at hundo
  · next hpast => simp [timeline, Timeline.back?, hpast]
  · cases hundo

theorem timeline_redo {h h' : History α} {current following : α}
    (hredo : h.redo? current = some (following, h')) :
    (h.timeline current).forward? = some (h'.timeline following) := by
  obtain ⟨label, future, hfuture, rfl⟩ := redo?_eq_some hredo
  simp [timeline, Timeline.forward?, hfuture]

theorem timeline_redo_none {h : History α} {current : α} (hredo : h.redo? current = none) :
    (h.timeline current).forward? = none := by
  unfold redo? at hredo
  split at hredo
  · next hfuture => simp [timeline, Timeline.forward?, hfuture]
  · cases hredo

/-- Redoing takes back what undoing did, with the names of the changes. -/
theorem redo_undo {h h' : History α} {current previous : α}
    (hundo : h.undo? current = some (previous, h')) : h'.redo? previous = some (current, h) := by
  obtain ⟨label, past, hpast, rfl⟩ := undo?_eq_some hundo
  cases h
  cases hpast
  rfl

/-- The number of states that undoing and redoing can reach. -/
def levels (h : History α) : Nat := h.past.length + h.future.length

end History

end PageBuilder
