/-!
Machines: a step takes a state and an input to an answer and the next state. What one step preserves,
a run preserves; and inputs that neither change the state nor matter to the reader can be left out
of a run. Where answers tell their inputs, a run can be taken apart at any of its answers. Where a
step may be refused, a run goes on only with what the step before yields.
-/

namespace PageBuilder

/-- The answers of a machine to inputs that come one after the other, and its state after them. -/
def runMachine {σ ι ρ : Type} (step : σ → ι → ρ × σ) : σ → List ι → List ρ × σ
  | s, [] => ([], s)
  | s, i :: rest =>
    let (answer, s) := step s i
    let (answers, s) := runMachine step s rest
    (answer :: answers, s)

section Refusals

variable {ε α β : Type}

/-- What follows a step that may be refused gets the step's result. -/
theorem bind_ok {r : Except ε α} {g : α → Except ε β} {b : β} (h : (r >>= g) = .ok b) :
    ∃ a, r = .ok a ∧ g a = .ok b := by
  cases r with
  | error e => cases h
  | ok a => exact ⟨a, rfl, h⟩

theorem ok_of_isOk {r : Except ε α} (h : r.isOk = true) : ∃ a, r = .ok a := by
  cases r with
  | error e => cases h
  | ok a => exact ⟨a, rfl⟩

theorem ok_of_toOption {r : Except ε α} {a : α} (h : r.toOption = some a) : r = .ok a := by
  cases r with
  | error e => cases h
  | ok b => rw [Option.some.inj h]

/-- A result that passes a check is a result. -/
theorem ok_of_any {r : Except ε α} {p : α → Bool} (h : r.toOption.any p = true) :
    ∃ a, r = .ok a ∧ p a = true := by
  cases r with
  | error e => cases h
  | ok a => exact ⟨a, rfl, h⟩

/-- Steps that yield what others yield, whenever those are not refused, do so in a row. -/
theorem foldlM_ok {f g : α → β → Except ε α} (hstep : ∀ a b c, f a b = .ok c → g a b = .ok c)
    {inputs : List β} {a c : α} (h : inputs.foldlM f a = .ok c) : inputs.foldlM g a = .ok c := by
  induction inputs generalizing a with
  | nil => exact h
  | cons b rest ih =>
    rw [List.foldlM_cons] at h ⊢
    obtain ⟨next, hnext, hrest⟩ := bind_ok h
    rw [hstep a b next hnext]
    exact ih hrest

end Refusals

variable {α σ ι ρ : Type}

/-- The items at the positions that are kept. -/
def keepAt (keep : Nat → Bool) : List α → List α
  | [] => []
  | x :: rest =>
    if keep 0 then x :: keepAt (fun i => keep (i + 1)) rest
    else keepAt (fun i => keep (i + 1)) rest

variable (step : σ → ι → ρ × σ)

theorem runMachine_append (s : σ) (first second : List ι) :
    runMachine step s (first ++ second) =
      ((runMachine step s first).1 ++ (runMachine step (runMachine step s first).2 second).1,
        (runMachine step (runMachine step s first).2 second).2) := by
  induction first generalizing s with
  | nil => rfl
  | cons i rest ih => simp only [List.cons_append, runMachine, ih]

section Calls

variable {step} {call : ρ → ι} (hcall : ∀ s i, call (step s i).1 = i) {s : σ} {inputs : List ι}
  {before after : List ρ} {a : ρ}

include hcall

/-- Answers that tell their inputs tell those of a run, in order. -/
theorem runMachine_calls (s : σ) (inputs : List ι) :
    (runMachine step s inputs).1.map call = inputs := by
  induction inputs generalizing s with
  | nil => rfl
  | cons i rest ih => simp only [runMachine, List.map_cons, hcall, ih]

theorem calls_of_split (h : (runMachine step s inputs).1 = before ++ a :: after) :
    inputs = before.map call ++ call a :: after.map call := by
  rw [← runMachine_calls hcall s inputs, h, List.map_append, List.map_cons]

/-- An answer of a run is that of one step, behind the run that gives the answers before it. -/
theorem runMachine_split (h : (runMachine step s inputs).1 = before ++ a :: after) :
    (runMachine step s (before.map call)).1 = before ∧
      (step (runMachine step s (before.map call)).2 (call a)).1 = a := by
  have hrun : (runMachine step s inputs).1 = (runMachine step s (before.map call)).1 ++
      (step (runMachine step s (before.map call)).2 (call a)).1 ::
        (runMachine step (step (runMachine step s (before.map call)).2 (call a)).2
          (after.map call)).1 := by
    rw [calls_of_split hcall h]
    exact congrArg Prod.fst (runMachine_append step s (before.map call) _)
  have hlength : (runMachine step s (before.map call)).1.length = before.length := by
    have hmap := congrArg List.length (runMachine_calls hcall s (before.map call))
    rwa [List.length_map, List.length_map] at hmap
  obtain ⟨hbefore, hrest⟩ := List.append_inj (hrun.symm.trans h) hlength
  exact ⟨hbefore, (List.cons.inj hrest).1⟩

end Calls

/-- What every step preserves holds after every run. -/
theorem runMachine_invariant {P : σ → Prop} (hstep : ∀ s i, P s → P (step s i).2) (s : σ)
    (inputs : List ι) (h : P s) : P (runMachine step s inputs).2 := by
  induction inputs generalizing s with
  | nil => exact h
  | cons i rest ih => exact ih _ (hstep s i h)

/-- Two machines whose steps answer the same and keep a relation between their states answer the
same in whole runs. -/
theorem runMachine_lockstep {τ : Type} {other : τ → ι → ρ × τ} {R : σ → τ → Prop}
    {inputs : List ι}
    (hstep : ∀ s t, ∀ i ∈ inputs, R s t →
      (step s i).1 = (other t i).1 ∧ R (step s i).2 (other t i).2)
    {s : σ} {t : τ} (h : R s t) :
    (runMachine step s inputs).1 = (runMachine other t inputs).1 ∧
      R (runMachine step s inputs).2 (runMachine other t inputs).2 := by
  induction inputs generalizing s t with
  | nil => exact ⟨rfl, h⟩
  | cons i rest ih =>
    obtain ⟨hanswer, hnext⟩ := hstep s t i (List.mem_cons_self ..) h
    obtain ⟨hanswers, hend⟩ := ih (fun s t j hj => hstep s t j (List.mem_cons_of_mem _ hj)) hnext
    simp only [runMachine, hanswer, hanswers, true_and]
    exact hend

/-- A run without some of the steps that leave the state alone answers every other input as before
and ends in the same state. -/
theorem runMachine_keepAt (counts : ρ → Prop)
    (hidle : ∀ s i, ¬ counts (step s i).1 → (step s i).2 = s) (s : σ) (inputs : List ι)
    (keep : Nat → Bool)
    (hkeep : ∀ i a, (runMachine step s inputs).1[i]? = some a → counts a → keep i = true) :
    runMachine step s (keepAt keep inputs) =
      (keepAt keep (runMachine step s inputs).1, (runMachine step s inputs).2) := by
  induction inputs generalizing s keep with
  | nil => rfl
  | cons i rest ih =>
    have hrest := ih (step s i).2 (fun j => keep (j + 1)) fun j a ha => hkeep (j + 1) a ha
    by_cases hfirst : keep 0 = true
    · simp only [keepAt, runMachine, hfirst, if_true, hrest]
    · -- the first input is left out, so its step did not count
      have hsame : (step s i).2 = s := by
        apply hidle
        intro hcounts
        exact hfirst (hkeep 0 _ rfl hcounts)
      rw [hsame] at hrest
      simp only [keepAt, runMachine, hfirst, hsame, hrest, Bool.false_eq_true, if_false]

end PageBuilder
