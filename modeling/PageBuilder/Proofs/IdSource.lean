import PageBuilder.Machine
import PageBuilder.Proofs.Numbering

/-!
Runs of an id source. Ids are asked for, and the source is moved past other ids, in any order. What
is ahead of the source at the end of a run was ahead of it all the time, and what a run has handed
out or was moved past is not: a source that does not run out of numbers never repeats itself.
-/

namespace PageBuilder

/-- A call of an id source. -/
inductive IdCall where
  | next
  | advancePast (ids : List String)
deriving DecidableEq

/-- What happened at a call of an id source. -/
inductive IdEvent where
  | handedOut (id : String)
  | passed (ids : List String)
deriving DecidableEq

namespace IdEvent

/-- The call at which something happened. -/
def call : IdEvent → IdCall
  | .handedOut _ => .next
  | .passed ids => .advancePast ids

/-- The ids that were handed out or passed. -/
def ids : IdEvent → List String
  | .handedOut id => [id]
  | .passed ids => ids

def handedOut? : IdEvent → Option String
  | .handedOut id => some id
  | .passed _ => none

theorem handedOut?_eq_some_iff {e : IdEvent} {id : String} :
    e.handedOut? = some id ↔ e = .handedOut id := by
  cases e with
  | handedOut other => simp [handedOut?]
  | passed ids => simp [handedOut?]

end IdEvent

namespace IdSource

/-- One call: what happened, and the source after it. -/
def step (s : IdSource) : IdCall → IdEvent × IdSource
  | .next => (.handedOut s.next.1, s.next.2)
  | .advancePast ids => (.passed ids, s.advancePast ids)

/-- Calls one after the other: what happened at each, and the source after them. -/
def run : IdSource → List IdCall → List IdEvent × IdSource := runMachine step

/-- The source after calls. -/
def after (s : IdSource) (calls : List IdCall) : IdSource := (s.run calls).2

/-- No id is asked for when the last number is used up. -/
def LastsFor (s : IdSource) (calls : List IdCall) : Prop :=
  ∀ n, calls[n]? = some .next → (s.after (calls.take n)).issued < wordLimit - 1

variable {s : IdSource} {c : IdCall} {calls : List IdCall} {e : IdEvent} {id : String}

theorem step_call (s : IdSource) (c : IdCall) : (s.step c).1.call = c := by
  cases c <;> rfl

/-- Where an id is asked for, there is a number left. -/
theorem LastsFor.room {later : List IdCall} (h : s.LastsFor (calls ++ .next :: later)) :
    (s.after calls).issued + 1 < wordLimit := by
  have hroom := h calls.length (by simp)
  rw [List.take_left] at hroom
  omega

theorem LastsFor.head (h : s.LastsFor (.next :: calls)) : s.issued + 1 < wordLimit := by
  have hfirst : s.LastsFor ([] ++ .next :: calls) := h
  exact hfirst.room

theorem LastsFor.tail (h : s.LastsFor (c :: calls)) : (s.step c).2.LastsFor calls :=
  fun n hn => h (n + 1) hn

theorem LastsFor.of_append {more : List IdCall} (h : s.LastsFor (calls ++ more)) :
    s.LastsFor calls := by
  intro n hn
  have hlength : n < calls.length := (List.getElem?_eq_some_iff.1 hn).1
  have hroom := h n (by rwa [List.getElem?_append_left hlength])
  rwa [List.take_append_of_le_length (Nat.le_of_lt hlength)] at hroom

/-- An id that is asked for while the numbers last is the next one ahead. -/
theorem ahead_next (h : s.issued + 1 < wordLimit) : s.Ahead s.next.1 := by
  rw [next_eq h]
  exact ⟨s.issued + 1, Nat.lt_succ_self _, h, rfl⟩

theorem not_ahead_next (h : s.issued + 1 < wordLimit) : ¬ s.next.2.Ahead s.next.1 := by
  rw [next_eq h]
  rintro ⟨n, hn, -, hid⟩
  have hnumber : s.issued + 1 = n := idOf_injective s.seed hid
  exact Nat.ne_of_lt hn hnumber

/-- A call keeps the seed and only moves the number on. -/
theorem step_moves (h : s.LastsFor (c :: calls)) :
    (s.step c).2.seed = s.seed ∧ s.issued ≤ (s.step c).2.issued := by
  cases c with
  | next =>
    rw [step, next_eq h.head]
    exact ⟨rfl, Nat.le_succ _⟩
  | advancePast ids => exact ⟨advancePast_seed s ids, issued_le_advancePast s ids⟩

theorem not_ahead_step (h : s.LastsFor (c :: calls)) (hid : id ∈ (s.step c).1.ids) :
    ¬ (s.step c).2.Ahead id := by
  cases c with
  | next =>
    obtain rfl := List.mem_singleton.1 hid
    exact not_ahead_next h.head
  | advancePast ids => exact not_ahead_advancePast s hid

theorem run_moves (h : s.LastsFor calls) :
    (s.after calls).seed = s.seed ∧ s.issued ≤ (s.after calls).issued := by
  induction calls generalizing s with
  | nil => exact ⟨rfl, Nat.le_refl _⟩
  | cons c rest ih =>
    obtain ⟨hseed, hissued⟩ := step_moves h
    obtain ⟨hseedRest, hissuedRest⟩ := ih h.tail
    exact ⟨hseedRest.trans hseed, Nat.le_trans hissued hissuedRest⟩

/-- What a run has handed out or was moved past is not ahead at its end. -/
theorem not_ahead_run (h : s.LastsFor calls) (he : e ∈ (s.run calls).1) (hid : id ∈ e.ids) :
    ¬ (s.after calls).Ahead id := by
  induction calls generalizing s with
  | nil => cases he
  | cons c rest ih =>
    rcases List.mem_cons.1 he with rfl | he
    · -- the calls that follow only move the source further
      intro hahead
      obtain ⟨hseed, hissued⟩ := run_moves h.tail
      exact not_ahead_step h hid (hahead.mono hseed hissued)
    · exact ih h.tail he

/-- An id that a run hands out is new: it was neither handed out before nor among the ids that the
source was moved past. -/
theorem handedOut_new {before later : List IdEvent} (h : s.LastsFor calls)
    (hevents : (s.run calls).1 = before ++ .handedOut id :: later) : ∀ e ∈ before, id ∉ e.ids := by
  intro e he hid
  obtain ⟨hbefore, hstep⟩ := runMachine_split step_call hevents
  rw [calls_of_split step_call hevents] at h
  have hnext : (s.after (before.map IdEvent.call)).next.1 = id := IdEvent.handedOut.inj hstep
  have hahead := ahead_next h.room
  rw [hnext] at hahead
  -- the id is still ahead behind the events before it, which none of their ids is
  exact not_ahead_run h.of_append (hbefore.symm ▸ he) hid hahead

theorem nodup_handedOut (h : s.LastsFor calls) :
    ((s.run calls).1.filterMap IdEvent.handedOut?).Nodup := by
  rw [List.nodup_iff_pairwise_ne, List.pairwise_filterMap, List.pairwise_iff_forall_sublist]
  intro first second hsub a ha b hb
  rw [IdEvent.handedOut?_eq_some_iff] at ha hb
  subst ha hb
  obtain ⟨front, back, hevents, hfirst, hsecond⟩ := List.cons_sublist_iff.1 hsub
  obtain ⟨between, later, rfl⟩ := List.append_of_mem (List.singleton_sublist.1 hsecond)
  rw [← List.append_assoc] at hevents
  have hnew := handedOut_new h hevents _ (List.mem_append_left between hfirst)
  rw [IdEvent.ids, List.mem_singleton] at hnew
  exact Ne.symm hnew

theorem after_append (s : IdSource) (first second : List IdCall) :
    s.after (first ++ second) = (s.after first).after second := by
  simp only [after, run, runMachine_append]

theorem LastsFor.later {first second : List IdCall} (h : s.LastsFor (first ++ second)) :
    (s.after first).LastsFor second := by
  induction first generalizing s with
  | nil => exact h
  | cons c first ih => exact ih h.tail

/-- The number never goes down in the course of a run. -/
theorem issued_le_after (h : s.LastsFor calls) {m n : Nat} (hmn : m ≤ n) :
    (s.after (calls.take m)).issued ≤ (s.after (calls.take n)).issued := by
  rw [← List.take_append_drop n calls] at h
  have hsplit : calls.take n = calls.take m ++ (calls.take n).drop m := by
    have hboth := List.take_append_drop m (calls.take n)
    rwa [List.take_take, Nat.min_eq_left hmn, eq_comm] at hboth
  have hprefix := h.of_append
  rw [hsplit] at hprefix ⊢
  rw [after_append]
  exact (run_moves hprefix.later).2

end IdSource

/-- A source answers every call for an id with one. As long as no id is asked for when the last
number is used up, the ids that it hands out differ from each other, each of them differs from all
ids that the source was moved past before, whatever these look like, and the number of the source
never goes down. -/
theorem handed_out_ids_new (s : IdSource) (calls : List IdCall)
    (hroom : ∀ n, calls[n]? = some .next → (s.after (calls.take n)).issued < wordLimit - 1) :
    let events := (s.run calls).1
    events.map IdEvent.call = calls ∧
    (events.filterMap IdEvent.handedOut?).Nodup ∧
    (∀ before id later, events = before ++ .handedOut id :: later →
      ∀ ids, .passed ids ∈ before → id ∉ ids) ∧
    (∀ m n, m ≤ n → (s.after (calls.take m)).issued ≤ (s.after (calls.take n)).issued) := by
  intro events
  refine ⟨runMachine_calls IdSource.step_call s calls, IdSource.nodup_handedOut hroom, ?_, ?_⟩
  · intro before id later hevents ids hids
    exact IdSource.handedOut_new hroom hevents (.passed ids) hids
  · intro m n hmn
    exact IdSource.issued_le_after hroom hmn

/-- Ids that a source with the seed `a-1` is moved past: one with zeros, one with a plus, one with a
minus, one with another seed and one with a number that 64 bits do not hold. -/
def oddIds : List String := ["a-1-007", "a-1-+9", "a-1--12", "b-99", "a-1-18446744073709551616"]

theorem handed_out_ids_new_odd :
    let s := IdSource.ofSeed "a-1"
    let calls := [.next, .advancePast oddIds, .next, .advancePast ["a-1-4"], .next]
    (∀ n, calls[n]? = some .next → (s.after (calls.take n)).issued < wordLimit - 1) ∧
      (s.run calls).1 = [.handedOut "a-1-1", .passed oddIds] ++ .handedOut "a-1-10" ::
        [.passed ["a-1-4"], .handedOut "a-1-11"] ∧
      ((s.run calls).1.filterMap IdEvent.handedOut?).Nodup ∧ "a-1-10" ∉ oddIds ∧
      (s.after (calls.take 1)).issued ≤ (s.after (calls.take 4)).issued := by
  intro s calls
  have hroom : ∀ n, calls[n]? = some .next → (s.after (calls.take n)).issued < wordLimit - 1 := by
    have hcalls : ∀ n < 5, (s.after (calls.take n)).issued < wordLimit - 1 := by decide +kernel
    intro n hn
    exact hcalls n (List.getElem?_eq_some_iff.1 hn).1
  have hevents : (s.run calls).1 = [.handedOut "a-1-1", .passed oddIds] ++ .handedOut "a-1-10" ::
      [.passed ["a-1-4"], .handedOut "a-1-11"] := by decide +kernel
  obtain ⟨-, hnodup, hnew, hissued⟩ := handed_out_ids_new s calls hroom
  exact ⟨hroom, hevents, hnodup, hnew _ _ _ hevents oddIds (by decide), hissued 1 4 (by decide)⟩

end PageBuilder
