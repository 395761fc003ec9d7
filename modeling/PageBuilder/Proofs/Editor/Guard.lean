import PageBuilder.Proofs.Editor.Runs
import Mathlib.Data.List.Induction

/-!
Runs of the guard against double adds, as lists of what happened at each call. What the guard
remembers is the attempt admitted last since the last reset, and a rejected attempt leaves nothing
behind. A session offers its adds to such a guard and resets it when a project is loaded.
-/

namespace PageBuilder

/-- Same type, and positions that are equal as numbers. -/
def AddAttempt.Alike (a b : AddAttempt) : Prop :=
  a.type = b.type ∧ a.position.same b.position = true

/-- A call of the guard. -/
inductive GuardCall where
  | offer (attempt : AddAttempt)
  | reset

/-- The time of an attempt. -/
def GuardCall.time? : GuardCall → Option Int
  | .offer attempt => some attempt.at_
  | .reset => none

/-- What happened at a call of the guard. -/
inductive GuardEvent where
  | admitted (attempt : AddAttempt)
  | rejected (attempt : AddAttempt)
  | reset

namespace GuardEvent

/-- The call at which something happened. -/
def call : GuardEvent → GuardCall
  | .admitted attempt => .offer attempt
  | .rejected attempt => .offer attempt
  | .reset => .reset

def IsRejected (e : GuardEvent) : Prop := ∃ attempt, e = .rejected attempt

/-- The attempt was admitted, and neither another one was admitted after it nor the guard reset. -/
def LastAdmitted (events : List GuardEvent) (last : AddAttempt) : Prop :=
  ∃ earlier between, events = earlier ++ .admitted last :: between ∧ ∀ e ∈ between, e.IsRejected

variable {events : List GuardEvent} {e : GuardEvent} {last attempt : AddAttempt}

theorem lastAdmitted_rejected :
    LastAdmitted (events ++ [.rejected attempt]) last ↔ LastAdmitted events last := by
  constructor
  · rintro ⟨earlier, between, hevents, hbetween⟩
    rcases between.eq_nil_or_concat with rfl | ⟨front, e, rfl⟩
    · -- the attempt that was rejected is not the one that was admitted
      cases (List.append_inj' hevents rfl).2
    · rw [List.concat_eq_append] at hevents hbetween
      rw [← List.cons_append, ← List.append_assoc] at hevents
      refine ⟨earlier, front, (List.append_inj' hevents rfl).1, fun e he => ?_⟩
      exact hbetween e (List.mem_append_left _ he)
  · rintro ⟨earlier, between, rfl, hbetween⟩
    refine ⟨earlier, between ++ [.rejected attempt], ?_, ?_⟩
    · rw [List.append_assoc, List.cons_append]
    · intro e he
      rcases List.mem_append.1 he with he | he
      · exact hbetween e he
      · exact ⟨attempt, List.mem_singleton.1 he⟩

/-- What happened last decides, unless it was a rejection. -/
theorem lastAdmitted_concat (h : ¬ e.IsRejected) :
    LastAdmitted (events ++ [e]) last ↔ e = .admitted last := by
  constructor
  · rintro ⟨earlier, between, hevents, hbetween⟩
    rcases between.eq_nil_or_concat with rfl | ⟨front, e', rfl⟩
    · exact (List.cons.inj (List.append_inj' hevents rfl).2).1
    · rw [List.concat_eq_append] at hevents hbetween
      rw [← List.cons_append, ← List.append_assoc] at hevents
      obtain rfl := (List.cons.inj (List.append_inj' hevents rfl).2).1
      exact absurd (hbetween e (List.mem_append_right _ (List.mem_singleton_self e))) h
  · rintro rfl
    exact ⟨events, [], rfl, List.forall_mem_nil _⟩

end GuardEvent

namespace AddGuard

/-- One call: what happened, and the guard after it. -/
def step (g : AddGuard) : GuardCall → GuardEvent × AddGuard
  | .offer attempt =>
    (if (g.offer attempt).1 then .admitted attempt else .rejected attempt, (g.offer attempt).2)
  | .reset => (.reset, g.reset)

/-- Calls one after the other: what happened at each, and the guard after them. -/
def run : AddGuard → List GuardCall → List GuardEvent × AddGuard := runMachine step

open GuardEvent

variable {g : AddGuard} {window : Nat} {last attempt : AddAttempt}

theorem repeats_iff (h : 0 < window) :
    repeats window last attempt = true ↔
      last.Alike attempt ∧ attempt.at_ - last.at_ < window := by
  have htime : max 0 (attempt.at_ - last.at_) < (window : Int) ↔
      attempt.at_ - last.at_ < window := by omega
  simp only [repeats, AddAttempt.Alike, Bool.and_eq_true, beq_iff_eq, decide_eq_true_eq, htime]

/-- An attempt is rejected and forgotten, or admitted and remembered. -/
theorem step_offer (h : 0 < g.window) (attempt : AddAttempt) :
    g.step (.offer attempt) =
      if g.rejects attempt then (.rejected attempt, g)
      else (.admitted attempt, { g with last := some attempt }) := by
  rw [step, offer, if_neg (Nat.ne_of_gt h)]
  cases g.rejects attempt <;> rfl

theorem step_offer_zero (h : g.window = 0) (attempt : AddAttempt) :
    g.step (.offer attempt) = (.admitted attempt, g) := by
  rw [step, offer, if_pos h]
  rfl

theorem step_call (g : AddGuard) (c : GuardCall) : (g.step c).1.call = c := by
  cases c with
  | offer attempt =>
    rw [step]
    cases (g.offer attempt).1 <;> rfl
  | reset => rfl

theorem step_window (g : AddGuard) (c : GuardCall) : (g.step c).2.window = g.window := by
  cases c with
  | offer attempt =>
    simp only [step, offer]
    split_ifs <;> rfl
  | reset => rfl

/-- A rejected attempt leaves the guard as it was. -/
theorem step_rejected {c : GuardCall} (h : (g.step c).1.IsRejected) : (g.step c).2 = g := by
  obtain ⟨attempt, hrejected⟩ := h
  cases c with
  | offer other =>
    rw [step] at hrejected ⊢
    cases hanswer : (g.offer other).1 with
    | true =>
      rw [hanswer] at hrejected
      cases hrejected
    | false => exact offer_rejected hanswer
  | reset => cases hrejected

theorem run_cons (g : AddGuard) (c : GuardCall) (calls : List GuardCall) :
    g.run (c :: calls) =
      ((g.step c).1 :: ((g.step c).2.run calls).1, ((g.step c).2.run calls).2) := rfl

theorem run_concat (g : AddGuard) (calls : List GuardCall) (c : GuardCall) :
    g.run (calls ++ [c]) =
      ((g.run calls).1 ++ [((g.run calls).2.step c).1], ((g.run calls).2.step c).2) :=
  runMachine_append step g calls [c]

theorem run_calls (g : AddGuard) (calls : List GuardCall) :
    (g.run calls).1.map GuardEvent.call = calls := runMachine_calls step_call g calls

theorem run_window (calls : List GuardCall) : ((new window).run calls).2.window = window :=
  runMachine_invariant (P := fun g => g.window = window) step
    (fun g c h => (step_window g c).trans h) _ calls rfl

/-- The guard remembers the attempt admitted last since the last reset. -/
theorem run_last (h : 0 < window) (calls : List GuardCall) (last : AddAttempt) :
    ((new window).run calls).2.last = some last ↔
      LastAdmitted ((new window).run calls).1 last := by
  induction calls using List.reverseRecOn with
  | nil =>
    constructor
    · intro hnone
      cases hnone
    · rintro ⟨earlier, between, hevents, -⟩
      exact absurd hevents.symm (List.append_ne_nil_of_right_ne_nil _ (List.cons_ne_nil _ _))
  | append_singleton calls c ih =>
    rw [run_concat]
    have hwindow : 0 < ((new window).run calls).2.window := by rwa [run_window]
    generalize (new window).run calls = before at ih hwindow ⊢
    cases c with
    | offer attempt =>
      rw [step_offer hwindow]
      by_cases hrejects : before.2.rejects attempt = true
      · rw [if_pos hrejects, ih, lastAdmitted_rejected]
      · rw [if_neg hrejects, lastAdmitted_concat (by rintro ⟨_, hadmitted⟩; cases hadmitted)]
        simp
    | reset =>
      rw [lastAdmitted_concat (by rintro ⟨_, hreset⟩; cases hreset)]
      simp [step, reset]

/-- What happened at a call, after what happened before it. -/
theorem run_split {calls : List GuardCall} {before after : List GuardEvent} {e : GuardEvent}
    (h : (g.run calls).1 = before ++ e :: after) :
    (g.run (before.map call)).1 = before ∧ ((g.run (before.map call)).2.step e.call).1 = e :=
  runMachine_split step_call h

/-- An attempt is rejected exactly when it repeats the one admitted last since the last reset, less
than the window after it. -/
theorem rejected_iff (h : 0 < window) {calls : List GuardCall} {before after : List GuardEvent}
    {e : GuardEvent} (hevents : ((new window).run calls).1 = before ++ e :: after)
    (hoffer : e.call = .offer attempt) :
    e = .rejected attempt ↔
      ∃ last, LastAdmitted before last ∧ last.Alike attempt ∧
        attempt.at_ - last.at_ < window := by
  obtain ⟨hbefore, hstep⟩ := run_split hevents
  have hlast := run_last h (before.map call)
  have hwindow : ((new window).run (before.map call)).2.window = window := run_window _
  rw [hbefore] at hlast
  rw [hoffer] at hstep
  generalize ((new window).run (before.map call)).2 = reached at hlast hwindow hstep
  have hrejects : reached.rejects attempt = true ↔
      ∃ last, LastAdmitted before last ∧ last.Alike attempt ∧
        attempt.at_ - last.at_ < window := by
    unfold rejects
    cases hmemory : reached.last with
    | none =>
      refine ⟨fun hfalse => absurd hfalse Bool.false_ne_true, ?_⟩
      rintro ⟨last, hadmitted, -⟩
      rw [(hlast last).2 hadmitted] at hmemory
      cases hmemory
    | some remembered =>
      rw [hwindow, repeats_iff h]
      constructor
      · exact fun hrepeats => ⟨remembered, (hlast remembered).1 hmemory, hrepeats⟩
      · rintro ⟨last, hadmitted, hrepeats⟩
        rw [(hlast last).2 hadmitted] at hmemory
        cases hmemory
        exact hrepeats
  rw [← hrejects, ← hstep, step_offer (by rwa [hwindow])]
  by_cases hanswer : reached.rejects attempt = true
  · simp [hanswer]
  · simp [hanswer]

/-- What was admitted before an attempt was so at an earlier time, if time does not go back. -/
theorem times_le {calls : List GuardCall} {before after : List GuardEvent}
    (hordered : (calls.filterMap GuardCall.time?).Pairwise (· ≤ ·))
    (hevents : (g.run calls).1 = before ++ .rejected attempt :: after)
    (hlast : .admitted last ∈ before) : last.at_ ≤ attempt.at_ := by
  rw [calls_of_split step_call hevents, List.filterMap_append, List.pairwise_append] at hordered
  apply hordered.2.2
  · exact List.mem_filterMap.2 ⟨.offer last, List.mem_map_of_mem hlast, rfl⟩
  · exact List.mem_filterMap.2 ⟨.offer attempt, List.mem_cons_self .., rfl⟩

theorem mem_run_zero (calls : List GuardCall) {e : GuardEvent} (he : e ∈ ((new 0).run calls).1) :
    ¬ e.IsRejected := by
  rintro ⟨attempt, rfl⟩
  obtain ⟨before, after, hevents⟩ := List.append_of_mem he
  have hstep := (run_split hevents).2
  rw [call, step_offer_zero (run_window _)] at hstep
  cases hstep

end AddGuard

namespace Editor

/-- What a command and its answer mean for the guard: adds are offered to it, and a project that is
loaded resets it. -/
def guardEvent? : (Int × Command) × Except EditError Outcome → Option GuardEvent
  | ((now, .addElement element), .ok .applied) =>
    some (.admitted ⟨element.type, element.node.position, now⟩)
  | ((now, .addElement element), .ok .debounced) =>
    some (.rejected ⟨element.type, element.node.position, now⟩)
  | ((_, .loadProject ..), .ok .applied) => some .reset
  | _ => none

/-- What a run of commands means for the guard. -/
def guardEvents (script : List (Int × Command)) (answers : List (Except EditError Outcome)) :
    List GuardEvent := (script.zip answers).filterMap guardEvent?

theorem addElement_guard (e : Editor) (now : Int) (element : Element) :
    ∃ event, guardEvent? ((now, .addElement element), (e.step now (.addElement element)).1) =
        some event ∧
      e.guard.step event.call = (event, (e.step now (.addElement element)).2.guard) := by
  simp only [Editor.step, accepted, addElement]
  cases hanswer : (e.guard.offer ⟨element.type, element.node.position, now⟩).1 with
  | true =>
    refine ⟨.admitted ⟨element.type, element.node.position, now⟩, rfl, ?_⟩
    simp only [GuardEvent.call, AddGuard.step, hanswer, if_true]
    rfl
  | false =>
    refine ⟨.rejected ⟨element.type, element.node.position, now⟩, rfl, ?_⟩
    simp only [GuardEvent.call, AddGuard.step, hanswer, Bool.false_eq_true, if_false]

theorem loadProject_guard (e : Editor) (now : Int) (sections : Sections) (active : Option String) :
    (guardEvent? ((now, .loadProject sections active),
        (e.step now (.loadProject sections active)).1) = none ∧
      (e.step now (.loadProject sections active)).2.guard = e.guard) ∨
    (guardEvent? ((now, .loadProject sections active),
        (e.step now (.loadProject sections active)).1) = some .reset ∧
      (e.step now (.loadProject sections active)).2.guard = e.guard.reset) := by
  simp only [Editor.step, loadProject]
  split
  · exact Or.inl ⟨rfl, rfl⟩
  · exact Or.inr ⟨rfl, rfl⟩

/-- The guard goes through a command as through the call that the command means, if any. -/
theorem step_guard (e : Editor) (now : Int) (c : Command) :
    (guardEvent? ((now, c), (e.step now c).1) = none ∧ (e.step now c).2.guard = e.guard) ∨
      ∃ event, guardEvent? ((now, c), (e.step now c).1) = some event ∧
        e.guard.step event.call = (event, (e.step now c).2.guard) := by
  obtain ⟨r, e', hstep, hdid⟩ := exists_did e now c
  cases c with
  | addElement element => exact Or.inr (addElement_guard e now element)
  | loadProject sections active =>
    rcases loadProject_guard e now sections active with hkept | ⟨hevent, hreset⟩
    · exact Or.inl hkept
    · exact Or.inr ⟨.reset, hevent, by rw [hreset]; rfl⟩
  | _ =>
    refine Or.inl ⟨rfl, ?_⟩
    rw [hstep]
    cases hdid with
    | recorded _ label next ids guard hrecords => cases hrecords <;> rfl
    | _ => rfl

/-- The guard of a session goes through the adds and loads of a run. -/
theorem run_guard (e : Editor) (script : List (Int × Command)) :
    e.guard.run ((guardEvents script (e.run script).1).map GuardEvent.call) =
      (guardEvents script (e.run script).1, (e.after script).guard) := by
  induction script generalizing e with
  | nil => rfl
  | cons c rest ih =>
    have hrest := ih (e.step c.1 c.2).2
    have hevents : guardEvents (c :: rest) (e.run (c :: rest)).1 =
        (guardEvent? (c, (e.step c.1 c.2).1)).toList ++
          guardEvents rest ((e.step c.1 c.2).2.run rest).1 := by
      unfold guardEvents
      cases hevent : guardEvent? (c, (e.step c.1 c.2).1) with
      | none => exact List.filterMap_cons_none hevent
      | some event => exact List.filterMap_cons_some hevent
    have hafter : (e.after (c :: rest)).guard = ((e.step c.1 c.2).2.after rest).guard := rfl
    rw [hevents, hafter]
    rcases step_guard e c.1 c.2 with ⟨hnone, hkept⟩ | ⟨event, hevent, hstep⟩
    · rw [hnone]
      rw [hkept] at hrest
      exact hrest
    · rw [hevent, Option.toList_some, List.singleton_append, List.map_cons, AddGuard.run_cons, hstep,
        hrest]

end Editor

open GuardEvent in
/-- A guard with a window rejects an attempt exactly when it repeats the one admitted last since the
last reset, less than the window after it. So rejected attempts can be left out without changing
another answer; two equal attempts that are both admitted, with nothing but rejections between them,
are at least the window apart; and when time does not go back, every rejected attempt has an equal
one that was admitted less than the window before it. Without a window nothing is rejected. The guard
of a session is run by its adds and loads, and answers them like this. -/
theorem guard_rejects_repeats (window : Nat) (calls : List GuardCall) :
    let events := ((AddGuard.new window).run calls).1
    events.map call = calls ∧
    (0 < window → ∀ before e after attempt, events = before ++ e :: after →
      e.call = .offer attempt →
      (e = .rejected attempt ↔ ∃ last, LastAdmitted before last ∧ last.Alike attempt ∧
        attempt.at_ - last.at_ < window)) ∧
    (∀ keep : Nat → Bool, (∀ i e, events[i]? = some e → ¬ e.IsRejected → keep i = true) →
      (AddGuard.new window).run (keepAt keep calls) =
        (keepAt keep events, ((AddGuard.new window).run calls).2)) ∧
    (0 < window → ∀ before first between second after,
      events = before ++ .admitted first :: (between ++ .admitted second :: after) →
      (∀ e ∈ between, e.IsRejected) → first.Alike second →
      (window : Int) ≤ second.at_ - first.at_) ∧
    (0 < window → (calls.filterMap GuardCall.time?).Pairwise (· ≤ ·) →
      ∀ before attempt after, events = before ++ .rejected attempt :: after →
      ∃ last, .admitted last ∈ before ∧ last.Alike attempt ∧
        last.at_ ≤ attempt.at_ ∧ attempt.at_ < last.at_ + (window : Int)) ∧
    (window = 0 → ∀ e ∈ events, ¬ e.IsRejected) ∧
    (∀ config key script, config.addDebounceMs = window →
      let answers := ((Editor.new config key).run script).1
      (AddGuard.new window).run ((Editor.guardEvents script answers).map call) =
        (Editor.guardEvents script answers, ((Editor.new config key).after script).guard)) := by
  intro events
  have hrejected {before e after attempt} (hwindow : 0 < window)
      (hevents : events = before ++ e :: after) (hoffer : e.call = .offer attempt) :=
    AddGuard.rejected_iff hwindow hevents hoffer
  refine ⟨AddGuard.run_calls _ calls, ?_, ?_, ?_, ?_, ?_, ?_⟩
  · intro hwindow before e after attempt hevents hoffer
    exact hrejected hwindow hevents hoffer
  · intro keep hkeep
    apply runMachine_keepAt AddGuard.step (fun e => ¬ e.IsRejected)
    · intro g c hidle
      exact AddGuard.step_rejected (not_not.1 hidle)
    · exact hkeep
  · intro hwindow before first between second after hevents hbetween halike
    rw [← List.cons_append, ← List.append_assoc] at hevents
    have hadmitted := (hrejected hwindow hevents rfl).not.1 (by simp)
    by_contra hnear
    exact hadmitted ⟨first, ⟨before, between, rfl, hbetween⟩, halike, Int.not_le.1 hnear⟩
  · intro hwindow hordered before attempt after hevents
    obtain ⟨last, hlast, halike, hnear⟩ := (hrejected hwindow hevents rfl).1 rfl
    obtain ⟨earlier, between, rfl, -⟩ := hlast
    have hmem : .admitted last ∈ earlier ++ .admitted last :: between := by simp
    exact ⟨last, hmem, halike, AddGuard.times_le hordered hevents hmem, by omega⟩
  · rintro rfl e he
    exact AddGuard.mem_run_zero calls he
  · rintro config key script rfl
    exact Editor.run_guard (Editor.new config key) script

/-- A text that is dropped at the origin. -/
def textDrop (now : Int) : AddAttempt := ⟨.text, .origin, now⟩

/-- A drop, a repetition that is rejected, and two more drops; the last one comes after a reset. -/
def textDrops : List GuardCall :=
  [.offer (textDrop 0), .offer (textDrop 200), .offer (textDrop 320), .reset, .offer (textDrop 330)]

/-- One text, added twice. -/
def textAdds : List (Int × Command) :=
  [(0, .addElement (.mk ⟨"t", .text, .empty, .empty, .origin, .auto⟩ [])),
    (200, .addElement (.mk ⟨"t", .text, .empty, .empty, .origin, .auto⟩ []))]

open GuardEvent in
theorem guard_rejects_repeats_drops :
    0 < 300 ∧ (textDrops.filterMap GuardCall.time?).Pairwise (· ≤ ·) ∧
      ((AddGuard.new 300).run textDrops).1 =
        [.admitted (textDrop 0)] ++ .rejected (textDrop 200) ::
          [.admitted (textDrop 320), .reset, .admitted (textDrop 330)] ∧
      (∃ last, LastAdmitted [.admitted (textDrop 0)] last ∧ last.Alike (textDrop 200) ∧
        (textDrop 200).at_ - last.at_ < (300 : Nat)) ∧
      (∃ last, admitted last ∈ [admitted (textDrop 0)] ∧ last.Alike (textDrop 200) ∧
        last.at_ ≤ (textDrop 200).at_ ∧ (textDrop 200).at_ < last.at_ + (300 : Nat)) ∧
      ((300 : Nat) : Int) ≤ (textDrop 320).at_ - (textDrop 0).at_ ∧
      (AddGuard.new 300).run (keepAt (· != 1) textDrops) =
        (keepAt (· != 1) ((AddGuard.new 300).run textDrops).1,
          ((AddGuard.new 300).run textDrops).2) ∧
      (∀ e ∈ ((AddGuard.new 0).run textDrops).1, ¬ e.IsRejected) ∧
      (AddGuard.new 300).run ((Editor.guardEvents textAdds
          ((Editor.new {} "shop").run textAdds).1).map call) =
        (Editor.guardEvents textAdds ((Editor.new {} "shop").run textAdds).1,
          ((Editor.new {} "shop").after textAdds).guard) := by
  obtain ⟨-, hrepeats, hremovable, hapart, hrecent, -, hsession⟩ :=
    guard_rejects_repeats 300 textDrops
  have hzero := (guard_rejects_repeats 0 textDrops).2.2.2.2.2.1 rfl
  have hordered : (textDrops.filterMap GuardCall.time?).Pairwise (· ≤ ·) := by decide
  refine ⟨by decide, hordered, rfl, ?_, ?_, ?_, ?_, hzero, hsession {} "shop" textAdds rfl⟩
  · exact (hrepeats (by decide) _ _ _ _ rfl rfl).1 rfl
  · exact hrecent (by decide) hordered [.admitted (textDrop 0)] (textDrop 200)
      [.admitted (textDrop 320), .reset, .admitted (textDrop 330)] rfl
  · apply hapart (by decide) [] _ [.rejected (textDrop 200)] _ _ rfl
    · intro e he
      exact ⟨_, List.mem_singleton.1 he⟩
    · exact ⟨rfl, rfl⟩
  · apply hremovable
    intro i e hevent hkept
    rw [bne_iff_ne]
    rintro rfl
    obtain rfl := Option.some.inj hevent
    exact hkept ⟨_, rfl⟩

end PageBuilder
