import PageBuilder.Json.Printer
import PageBuilder.Decimal.Shortest
import PageBuilder.Proofs.Text.Trim

/-!
The characters of written numbers. Digits, letters, signs and points are all that a number brings
along, in style sheets and in JSON, so none of the marks that divide these texts comes from it.
-/

namespace PageBuilder

/-- A character that a number can be written with. -/
def isNumeral (c : Char) : Bool := c.isAlphanum || c == '-' || c == '+' || c == '.'

/-- Nothing but what numbers are written with. -/
def Numeral (cs : List Char) : Prop := ∀ c ∈ cs, isNumeral c = true

section Characters

variable {c : Char}

theorem isUpper_range (h : c.isUpper = true) : 0x41 ≤ c.toNat ∧ c.toNat ≤ 0x5a :=
  of_decide_eq_true h

/-- Below the digits there are signs and points only, and between digits and letters nothing. -/
theorem toNat_of_isNumeral (h : isNumeral c = true) :
    c.toNat = 0x2b ∨ c.toNat = 0x2d ∨ c.toNat = 0x2e ∨ (0x30 ≤ c.toNat ∧ c.toNat ≤ 0x39) ∨
      (0x41 ≤ c.toNat ∧ c.toNat ≤ 0x5a) ∨ (0x61 ≤ c.toNat ∧ c.toNat ≤ 0x7a) := by
  simp only [isNumeral, Bool.or_eq_true, beq_iff_eq] at h
  rcases h with ((halpha | rfl) | rfl) | rfl
  · change ((c.isUpper || c.isLower) || c.isDigit) = true at halpha
    rw [Bool.or_eq_true, Bool.or_eq_true] at halpha
    rcases halpha with (hupper | hlower) | hdigit
    · have hrange := isUpper_range hupper
      omega
    · have hrange : 0x61 ≤ c.toNat ∧ c.toNat ≤ 0x7a :=
        And.imp of_decide_eq_true of_decide_eq_true (Bool.and_eq_true_iff.1 hlower)
      omega
    · have hrange : 0x30 ≤ c.toNat ∧ c.toNat ≤ 0x39 :=
        And.imp of_decide_eq_true of_decide_eq_true (Bool.and_eq_true_iff.1 hdigit)
      omega
  · decide
  · decide
  · decide

theorem isNumeral_of_isDigit (h : c.isDigit = true) : isNumeral c = true := by
  simp [isNumeral, Char.isAlphanum, h]

theorem isBlank_of_isNumeral (h : isNumeral c = true) : isBlank c = false := by
  have hrange := toNat_of_isNumeral h
  simp only [isBlank, Bool.or_eq_false_iff, Bool.and_eq_false_imp, decide_eq_true_eq,
    decide_eq_false_iff_not, beq_eq_false_iff_ne]
  omega

end Characters

section Numerals

variable {cs ds : List Char}

theorem Numeral.unblank (h : Numeral cs) : Unblank cs :=
  fun c hc => isBlank_of_isNumeral (h c hc)

theorem Numeral.append (hcs : Numeral cs) (hds : Numeral ds) : Numeral (cs ++ ds) :=
  List.forall_mem_append.2 ⟨hcs, hds⟩

theorem numeral_cons {c : Char} (hc : isNumeral c = true) (hcs : Numeral cs) : Numeral (c :: cs) :=
  List.forall_mem_cons.2 ⟨hc, hcs⟩

theorem Numeral.take (h : Numeral cs) (n : Nat) : Numeral (cs.take n) :=
  fun c hc => h c (List.mem_of_mem_take hc)

theorem Numeral.drop (h : Numeral cs) (n : Nat) : Numeral (cs.drop n) :=
  fun c hc => h c (List.mem_of_mem_drop hc)

theorem numeral_zeros (n : Nat) : Numeral (List.replicate n '0') := by
  intro c hc
  obtain rfl := List.eq_of_mem_replicate hc
  decide

theorem numeral_toDigits (n : Nat) : Numeral (Nat.toDigits 10 n) := fun _ hc =>
  isNumeral_of_isDigit (Nat.isDigit_of_mem_toDigits (by decide) (by decide) hc)

theorem numeral_nat (n : Nat) : Numeral (toString n).toList := by
  change Numeral (Nat.repr n).toList
  rw [Nat.toList_repr]
  exact numeral_toDigits n

theorem numeral_int (n : Int) : Numeral (toString n).toList := by
  cases n with
  | ofNat k => exact numeral_nat k
  | negSucc k =>
    change Numeral ("-" ++ Nat.repr (k + 1)).toList
    rw [String.toList_append]
    exact numeral_cons (by decide) (numeral_nat (k + 1))

theorem numeral_digitChars (d : Decimal) : Numeral d.digitChars := numeral_nat d.digits

theorem numeral_plainChars (d : Decimal) : Numeral d.plainChars := by
  have hdigits := numeral_digitChars d
  unfold Decimal.plainChars
  dsimp only
  split
  · exact hdigits.append (numeral_zeros _)
  · split
    · exact (hdigits.take _).append (numeral_cons (by decide) (hdigits.drop _))
    · exact numeral_cons (by decide)
        (numeral_cons (by decide) ((numeral_zeros _).append hdigits))

theorem numeral_plainNumber (x : Float) : Numeral (plainNumber x).toList := by
  have hsize : Numeral
      (if !x.isFinite then "inf".toList
      else if (Binary.ofFloat x).significand = 0 then ['0']
      else ((Binary.ofFloat x).shortest .up).plainChars) := by
    split
    · unfold Numeral
      decide
    · split
      · unfold Numeral
        decide
      · exact numeral_plainChars _
  unfold plainNumber
  split
  · unfold Numeral
    decide
  · -- a sign may stand in front
    dsimp only
    rw [String.toList_ofList]
    split
    · exact numeral_cons (by decide) hsize
    · exact hsize

/-- The number of a length as it is written. -/
def pxNumber (x : Float) : String :=
  match if x.isFinite then (Binary.ofFloat x).toInt? else none with
  | some n => if n.natAbs < tenPow 15 then toString n else plainNumber x
  | none => plainNumber x

theorem formatPx_eq (x : Float) : formatPx x = pxNumber x ++ "px" := by
  unfold formatPx pxNumber
  dsimp only
  cases (if x.isFinite then (Binary.ofFloat x).toInt? else none) <;> rfl

theorem numeral_pxNumber (x : Float) : Numeral (pxNumber x).toList := by
  unfold pxNumber
  split
  · split
    · exact numeral_int _
    · exact numeral_plainNumber x
  · exact numeral_plainNumber x

theorem numeral_doubleChars (d : Decimal) : Numeral (Json.doubleChars d) := by
  have hdigits := numeral_digitChars d
  unfold Json.doubleChars
  dsimp only
  split
  · refine (numeral_plainChars d).append ?_
    split <;> (unfold Numeral; decide)
  · refine ((hdigits.take 1).append ?_).append (numeral_cons (by decide) ?_)
    · split
      · exact List.forall_mem_nil _
      · exact numeral_cons (by decide) fun c hc => hdigits c (List.mem_of_mem_tail hc)
    · refine numeral_cons ?_ (numeral_nat _)
      split <;> decide

/-- A number in JSON, or the word in place of one that has no written form. -/
theorem Json.Number.chars_numeral (n : Json.Number) : Numeral n.chars := by
  cases n with
  | int n => exact numeral_int n
  | float x =>
    have hnull : Numeral "null".toList := by
      unfold Numeral
      decide
    have hzero : Numeral "0.0".toList := by
      unfold Numeral
      decide
    unfold Json.Number.chars
    dsimp only
    split
    · exact hnull
    · split
      · refine numeral_cons (by decide) ?_
        split
        · exact hzero
        · exact numeral_doubleChars _
      · split
        · exact hzero
        · exact numeral_doubleChars _

end Numerals

end PageBuilder
