import PageBuilder.Text.Cut
import Mathlib.Data.List.DropRight
import Mathlib.Tactic.Common

/-!
Texts that trimming leaves as they are: those without white space at their ends, and so all those
without any.
-/

namespace PageBuilder

/-- No white space at all. -/
def Unblank (cs : List Char) : Prop := ∀ c ∈ cs, isBlank c = false

theorem trimChars_eq {cs : List Char} (hfirst : ∀ c ∈ cs.head?, isBlank c = false)
    (hlast : ∀ c ∈ cs.getLast?, isBlank c = false) : trimChars cs = cs := by
  have hdrop {l : List Char} (h : ∀ c ∈ l.head?, isBlank c = false) : l.dropWhile isBlank = l := by
    cases l with
    | nil => rfl
    | cons c l => rw [List.dropWhile_cons, h c rfl, if_neg Bool.false_ne_true]
  rw [trimChars, trimStartChars, hdrop hfirst, trimEndChars, hdrop, List.reverse_reverse]
  rwa [List.head?_reverse]

theorem Unblank.trim {cs : List Char} (h : Unblank cs) : trimChars cs = cs :=
  trimChars_eq (fun c hc => h c (List.mem_of_mem_head? hc))
    (fun c hc => h c (List.mem_of_getLast? hc))

theorem trimChars_cons_blank {c : Char} (h : isBlank c = true) (cs : List Char) :
    trimChars (c :: cs) = trimChars cs := by
  rw [trimChars, trimStartChars, List.dropWhile_cons_of_pos h]
  rfl

/-- Nothing but white space. -/
def Blanks (cs : List Char) : Prop := ∀ c ∈ cs, isBlank c = true

theorem Blanks.trimStart_append {ws : List Char} (h : Blanks ws) (cs : List Char) :
    trimStartChars (ws ++ cs) = trimStartChars cs := List.dropWhile_append_of_pos h

theorem Blanks.trim_append {ws : List Char} (h : Blanks ws) (cs : List Char) :
    trimChars (ws ++ cs) = trimChars cs := by
  rw [trimChars, h.trimStart_append, trimChars]

theorem Blanks.trimEnd_append {ws : List Char} (h : Blanks ws) (cs : List Char) :
    trimEndChars (cs ++ ws) = trimEndChars cs := by
  have hback : ∀ c ∈ ws.reverse, isBlank c = true := fun c hc => h c (List.mem_reverse.1 hc)
  rw [trimEndChars, List.reverse_append, List.dropWhile_append_of_pos hback]
  rfl

theorem trimStartChars_cons {c : Char} (h : isBlank c = false) (cs : List Char) :
    trimStartChars (c :: cs) = c :: cs := by
  rw [trimStartChars, List.dropWhile_cons, h, if_neg Bool.false_ne_true]

theorem trimEndChars_cons {c : Char} (h : isBlank c = false) (cs : List Char) :
    trimEndChars (c :: cs) = c :: trimEndChars cs := by
  have hstop : [c].dropWhile isBlank = [c] := by
    rw [List.dropWhile_cons, h, if_neg Bool.false_ne_true]
  rw [trimEndChars, trimEndChars, List.reverse_cons, List.dropWhile_append, hstop]
  split
  · next hnone => rw [List.isEmpty_iff.1 hnone]; rfl
  · rw [List.reverse_append]; rfl

theorem trimChars_cons {c : Char} (h : isBlank c = false) (cs : List Char) :
    trimChars (c :: cs) = c :: trimEndChars cs := by
  rw [trimChars, trimStartChars_cons h, trimEndChars_cons h]

/-- Brackets at its ends keep a text from being trimmed. -/
theorem trimChars_enclosed {first last : Char} (hfirst : isBlank first = false)
    (hlast : isBlank last = false) (inner : List Char) :
    trimChars (first :: (inner ++ [last])) = first :: (inner ++ [last]) := by
  apply trimChars_eq
  · intro c hc
    rwa [← Option.some.inj hc]
  · intro c hc
    rw [← List.cons_append, List.getLast?_concat] at hc
    rwa [← Option.some.inj hc]

/-- White space behind a text is trimmed away. -/
theorem Blanks.append_trim {ws : List Char} (h : Blanks ws) (cs : List Char) :
    trimChars (cs ++ ws) = trimChars cs := by
  induction cs with
  | nil =>
    have hall := h.trim_append []
    rwa [List.append_nil] at hall
  | cons c cs ih =>
    rw [List.cons_append]
    cases hc : isBlank c with
    | true => rw [trimChars_cons_blank hc, trimChars_cons_blank hc, ih]
    | false => rw [trimChars_cons hc, trimChars_cons hc, h.trimEnd_append]

/-- A text is what is left of it when it is trimmed, between white space. -/
theorem trimChars_between (cs : List Char) :
    ∃ front back, Blanks front ∧ Blanks back ∧ cs = front ++ (trimChars cs ++ back) := by
  refine ⟨cs.takeWhile isBlank, ((trimStartChars cs).reverse.takeWhile isBlank).reverse,
    fun c hc => List.mem_takeWhile_imp hc,
    fun c hc => List.mem_takeWhile_imp (List.mem_reverse.1 hc), ?_⟩
  have hback := List.takeWhile_append_dropWhile (p := isBlank) (l := (trimStartChars cs).reverse)
  rw [trimChars, trimEndChars, ← List.reverse_append, hback, List.reverse_reverse]
  exact List.takeWhile_append_dropWhile.symm

/-- What is trimmed starts and ends with something else than white space. -/
theorem trimChars_ends (cs : List Char) :
    (∀ c ∈ (trimChars cs).head?, isBlank c = false) ∧
      ∀ c ∈ (trimChars cs).getLast?, isBlank c = false := by
  have hfirst (l : List Char) : ∀ c ∈ (l.dropWhile isBlank).head?, isBlank c = false := by
    intro c hc
    have hstops := List.head?_dropWhile_not isBlank l
    rw [Option.mem_def.1 hc] at hstops
    simpa using hstops
  refine ⟨fun c hc => ?_, fun c hc => ?_⟩
  · -- the end is cut off a text that already starts like this
    have hfront : trimChars cs <+: trimStartChars cs := List.rdropWhile_prefix isBlank _
    obtain ⟨behind, hbehind⟩ := hfront
    apply hfirst cs c
    change c ∈ (trimStartChars cs).head?
    rw [← hbehind, List.head?_append, Option.mem_def.1 hc, Option.some_or]
    rfl
  · rw [trimChars, trimEndChars, List.getLast?_reverse] at hc
    exact hfirst _ c hc

theorem trimChars_subset (cs : List Char) : trimChars cs ⊆ cs := by
  intro c hc
  rw [trimChars, trimEndChars, List.mem_reverse] at hc
  have hstart := List.mem_reverse.1 ((List.dropWhile_sublist isBlank).subset hc)
  exact (List.dropWhile_sublist isBlank).subset hstart

/-- Only white space is trimmed away. -/
theorem mem_trimChars {c : Char} {cs : List Char} (hc : isBlank c = false) (h : c ∈ cs) :
    c ∈ trimChars cs := by
  have hkept {l : List Char} (hl : c ∈ l) : c ∈ l.dropWhile isBlank := by
    rw [← List.takeWhile_append_dropWhile (p := isBlank) (l := l), List.mem_append] at hl
    refine hl.resolve_left fun hblank => ?_
    rw [List.mem_takeWhile_imp hblank] at hc
    cases hc
  rw [trimChars, trimEndChars, List.mem_reverse]
  exact hkept (List.mem_reverse.2 (hkept h))

theorem Unblank.append {cs ds : List Char} (hcs : Unblank cs) (hds : Unblank ds) :
    Unblank (cs ++ ds) := by
  intro c hc
  rcases List.mem_append.1 hc with hc | hc
  · exact hcs c hc
  · exact hds c hc

theorem unblank_cons {c : Char} {cs : List Char} (hc : isBlank c = false) (hcs : Unblank cs) :
    Unblank (c :: cs) := List.forall_mem_cons.2 ⟨hc, hcs⟩

end PageBuilder
