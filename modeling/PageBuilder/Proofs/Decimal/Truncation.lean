import PageBuilder.Html.Context
import Mathlib

/-!
Doubles in order. A finite double is a whole number of the smallest positive doubles, and neither
comparing nor cutting off the fraction depends on anything else; so a number that is kept in a range
stays in it when its fraction is cut off.
-/

namespace PageBuilder

open Float.Model

/-- The double is written like one that is read off its bits: with 53 digits, or fewer of them at
the smallest exponent. -/
structure Binary.Canonical (b : Binary) : Prop where
  significand_lt : b.significand < 2 ^ 53
  exponent_ge : -1074 ≤ b.exponent
  normal : b.exponent ≠ -1074 → 2 ^ 52 ≤ b.significand

/-- How many of the smallest positive doubles make one. -/
def unitsInOne : Nat := 2 ^ 1074

/-- The value as a multiple of the smallest positive double, without its sign. -/
def Binary.size (b : Binary) : Nat := b.significand * 2 ^ (b.exponent + 1074).toNat

/-- The value as a multiple of the smallest positive double. -/
def Binary.units (b : Binary) : Int := if b.negative then -b.size else b.size

namespace Binary

theorem size_div {b : Binary} (h : -1074 ≤ b.exponent) :
    b.size / unitsInOne = match b.exponent with
      | .ofNat e => b.significand * twoPow e
      | .negSucc e => b.significand / twoPow (e + 1) := by
  obtain ⟨negative, m, exponent⟩ := b
  unfold size unitsInOne
  cases exponent with
  | ofNat e =>
    have hpow : (Int.ofNat e + 1074).toNat = e + 1074 := by
      rw [Int.ofNat_eq_natCast]
      omega
    rw [hpow, Nat.pow_add, ← Nat.mul_assoc, Nat.mul_div_cancel _ (Nat.two_pow_pos 1074)]
    rfl
  | negSucc e =>
    -- the unit is so small that the whole exponent cancels
    obtain ⟨k, hk⟩ : ∃ k, 1074 = e + 1 + k := ⟨1074 - (e + 1), by simp at h; omega⟩
    have hpow : (Int.negSucc e + 1074).toNat = k := by omega
    rw [hpow, hk, Nat.pow_add, Nat.mul_div_mul_right _ _ (Nat.two_pow_pos k)]
    rfl

/-- Cutting off the fraction divides by the number of units in one. -/
theorem truncate_eq {b : Binary} (h : -1074 ≤ b.exponent) :
    b.truncate = b.units.tdiv unitsInOne := by
  have htruncate : b.truncate =
      if b.negative then -((b.size / unitsInOne : Nat) : Int)
      else ((b.size / unitsInOne : Nat) : Int) := by
    rw [size_div h]
    rfl
  rw [htruncate, units]
  cases b.negative with
  | true => simp only [if_true, Int.neg_tdiv, Int.ofNat_tdiv]
  | false => simp only [Bool.false_eq_true, if_false, Int.ofNat_tdiv]

/-- Of two doubles the one with the larger exponent is the larger one. -/
theorem size_le {a b : Binary} (ha : a.Canonical) (hb : b.Canonical)
    (h : a.exponent < b.exponent ∨ a.exponent = b.exponent ∧ a.significand ≤ b.significand) :
    a.size ≤ b.size := by
  unfold size
  rcases h with hlt | ⟨heq, hle⟩
  · have hnormal := hb.normal (by have := ha.exponent_ge; omega)
    obtain ⟨k, hk⟩ : ∃ k, (b.exponent + 1074).toNat = (a.exponent + 1074).toNat + 1 + k :=
      ⟨(b.exponent + 1074).toNat - (a.exponent + 1074).toNat - 1, by
        have := ha.exponent_ge
        omega⟩
    calc a.significand * 2 ^ (a.exponent + 1074).toNat
        ≤ 2 ^ 53 * 2 ^ (a.exponent + 1074).toNat :=
          Nat.mul_le_mul_right _ (Nat.le_of_lt ha.significand_lt)
      _ = 2 ^ 52 * 2 ^ ((a.exponent + 1074).toNat + 1) := by ring
      _ ≤ b.significand * 2 ^ ((a.exponent + 1074).toNat + 1) := Nat.mul_le_mul_right _ hnormal
      _ ≤ b.significand * 2 ^ (b.exponent + 1074).toNat := by
          rw [hk]
          exact Nat.mul_le_mul_left _ (Nat.pow_le_pow_right (by decide) (Nat.le_add_right _ _))
  · rw [heq]
    exact Nat.mul_le_mul_right _ hle

section Bits

variable (b : BitVec Format.binary64.numBits)

theorem mantissa_toNat : (UnpackedFloat.unpackMantissa b).toNat = b.toNat % 2 ^ 52 := by
  simp [UnpackedFloat.unpackMantissa, BitVec.extractLsb]

theorem exponent_toNat :
    (UnpackedFloat.unpackExponent b).toNat = b.toNat / 2 ^ 52 % 2 ^ 11 := by
  simp [UnpackedFloat.unpackExponent, BitVec.extractLsb, Nat.shiftRight_eq_div_pow]

theorem sign_toNat : (UnpackedFloat.unpackSign b).toNat = b.toNat / 2 ^ 63 := by
  have hbits : b.toNat < 2 ^ 64 := b.isLt
  simp [UnpackedFloat.unpackSign, BitVec.extractLsb, Nat.shiftRight_eq_div_pow]
  omega

theorem sign_negative :
    (UnpackedFloat.Sign.ofBitVec (UnpackedFloat.unpackSign b) == .negative) =
      (b.toNat / 2 ^ 63 == 1) := by
  have hbits : b.toNat < 2 ^ 64 := b.isLt
  unfold UnpackedFloat.Sign.ofBitVec
  split
  · next hzero =>
    have hsign : b.toNat / 2 ^ 63 = 0 := by rw [← sign_toNat, hzero]; rfl
    rw [hsign]
    rfl
  · next hone =>
    have hsign : b.toNat / 2 ^ 63 ≠ 0 := by
      intro hzero
      rw [← sign_toNat] at hzero
      exact hone (BitVec.eq_of_toNat_eq hzero)
    have hvalue : b.toNat / 2 ^ 63 = 1 := by omega
    rw [hvalue]
    rfl

end Bits

theorem ofFloat_canonical (x : Float) : (ofFloat x).Canonical := by
  have hfraction : x.toBits.toNat % 2 ^ 52 < 2 ^ 52 := Nat.mod_lt _ (by decide)
  have hpow : twoPow 52 = 2 ^ 52 := rfl
  refine ⟨?_, ?_, ?_⟩
  · simp only [ofFloat, hpow]
    split <;> omega
  · simp only [ofFloat]
    omega
  · simp only [ofFloat, hpow]
    intro hexponent
    rw [if_neg (by omega)]
    omega

/-- The sign, the significand and the exponent of a finite double are those of its bits. -/
theorem ofFloat_unpack {x : Float} (h : x.isFinite = true) :
    (∃ s, x.toModel.unpack = .zero s ∧ (ofFloat x).significand = 0) ∨
      ∃ s m e hm, x.toModel.unpack = .finite s m e hm ∧
        ofFloat x = ⟨s == .negative, m, e⟩ := by
  let b : BitVec Format.binary64.numBits := x.toModel.toBits.toBitVec
  have hof : ofFloat x =
      { negative := b.toNat / 2 ^ 63 == 1
        significand :=
          if b.toNat / 2 ^ 52 % 2 ^ 11 = 0 then b.toNat % 2 ^ 52 else 2 ^ 52 + b.toNat % 2 ^ 52
        exponent := (max (b.toNat / 2 ^ 52 % 2 ^ 11) 1 : Nat) - 1075 } := rfl
  have hunpack : x.toModel.unpack = UnpackedFloat.unpack Format.binary64 b := rfl
  have hfinite : (UnpackedFloat.unpack Format.binary64 b).isFinite = true := h
  rw [hunpack, hof, ← sign_negative, ← exponent_toNat, ← mantissa_toNat]
  revert hfinite
  fun_cases UnpackedFloat.unpack Format.binary64 b with
  | case1 mantissa exponent sign s hlast hmantissa => intro hfinite; cases hfinite
  | case2 mantissa exponent hlast hmantissa => intro hfinite; cases hfinite
  | case3 mantissa exponent signBits sign hlast hzero hmantissa =>
    intro _
    left
    have hexponent : (UnpackedFloat.unpackExponent b).toNat = 0 := congrArg BitVec.toNat hzero
    have hfraction : (UnpackedFloat.unpackMantissa b).toNat = 0 := congrArg BitVec.toNat hmantissa
    refine ⟨_, rfl, ?_⟩
    simp only [hexponent, hfraction, if_true]
  | case4 mantissa exponent e signBits sign hlast hzero hmantissa =>
    intro _
    right
    have hexponent : (UnpackedFloat.unpackExponent b).toNat = 0 := congrArg BitVec.toNat hzero
    have hvalue : e = (UnpackedFloat.unpackExponent b).toNat - 1075 := rfl
    refine ⟨_, _, _, _, rfl, ?_⟩
    rw [Binary.mk.injEq]
    refine ⟨rfl, if_pos hexponent, ?_⟩
    omega
  | case5 mantissa exponent e signBits sign hlast hzero =>
    intro _
    right
    have hexponent : (UnpackedFloat.unpackExponent b).toNat ≠ 0 := by
      intro hnone
      exact hzero (BitVec.eq_of_toNat_eq hnone)
    have hvalue : e = (UnpackedFloat.unpackExponent b).toNat - 1075 := rfl
    -- the leading bit stands above the 52 bits of the fraction
    have hsignificand : (1#1 ++ mantissa).toNat = 2 ^ 52 + mantissa.toNat := by
      have hadd := Nat.two_pow_add_eq_or_of_lt mantissa.isLt 1
      rw [Nat.mul_one] at hadd
      rw [BitVec.toNat_append, hadd]
      rfl
    refine ⟨_, _, _, _, rfl, ?_⟩
    rw [Binary.mk.injEq, hsignificand]
    refine ⟨rfl, if_neg hexponent, ?_⟩
    omega

theorem lex_of_not_lt {e f : Int} {m n : Nat} (h : (compare e f).then (compare m n) ≠ .lt) :
    f < e ∨ f = e ∧ n ≤ m := by
  rw [Ne, Ordering.then_eq_lt, Int.compare_eq_lt, Int.compare_eq_eq, Nat.compare_eq_lt] at h
  omega

theorem lex_of_not_gt {e f : Int} {m n : Nat} (h : (compare e f).then (compare m n) ≠ .gt) :
    e < f ∨ e = f ∧ m ≤ n := by
  rw [Ne, Ordering.then_eq_gt, Int.compare_eq_gt, Int.compare_eq_eq, Nat.compare_eq_gt] at h
  omega

theorem units_le {x y : Float} (hx : x.isFinite = true) (hy : y.isFinite = true) (h : ¬ x < y) :
    (ofFloat y).units ≤ (ofFloat x).units := by
  have hlt : x < y ↔ x.toModel.unpack.compare y.toModel.unpack = some .lt := by
    have hless : (x < y) = (decide (x.toModel.unpack.lt y.toModel.unpack = true) = true) := rfl
    rw [hless, decide_eq_true_eq, UnpackedFloat.lt, beq_iff_eq]
  rw [hlt] at h
  have hzero {z : Float} (hz : (ofFloat z).significand = 0) : (ofFloat z).units = 0 := by
    simp [units, size, hz]
  have hcx := ofFloat_canonical x
  have hcy := ofFloat_canonical y
  -- zeros have no units; of two others the signs decide first, then the sizes
  rcases ofFloat_unpack hx with ⟨s, hxu, hxm⟩ | ⟨s, m, e, hm, hxu, hxb⟩ <;>
    rcases ofFloat_unpack hy with ⟨t, hyu, hym⟩ | ⟨t, n, f, hn, hyu, hyb⟩ <;>
    rw [hxu, hyu] at h
  · rw [hzero hxm, hzero hym]
  · -- zero is less than every positive double
    rw [hzero hxm, hyb]
    cases t with
    | positive => exact absurd rfl h
    | negative => exact Int.neg_nonpos_of_nonneg (Int.natCast_nonneg _)
  · rw [hzero hym, hxb]
    cases s with
    | positive => exact Int.natCast_nonneg _
    | negative => exact absurd rfl h
  · rw [hxb] at hcx ⊢
    rw [hyb] at hcy ⊢
    cases s with
    | positive =>
      cases t with
      | positive =>
        have hle := size_le hcy hcx (lex_of_not_lt fun hless => h (congrArg some hless))
        exact Int.ofNat_le.2 hle
      | negative =>
        exact Int.le_trans (Int.neg_nonpos_of_nonneg (Int.natCast_nonneg _))
          (Int.natCast_nonneg _)
    | negative =>
      cases t with
      | positive => exact absurd rfl h
      | negative =>
        have hle := size_le hcx hcy (lex_of_not_gt fun hmore => h (by
          rw [UnpackedFloat.compare, hmore]
          rfl))
        exact Int.neg_le_neg (Int.ofNat_le.2 hle)

theorem truncate_le {x y : Float} (hx : x.isFinite = true) (hy : y.isFinite = true)
    (h : ¬ x < y) : (ofFloat y).truncate ≤ (ofFloat x).truncate := by
  rw [truncate_eq (ofFloat_canonical x).exponent_ge, truncate_eq (ofFloat_canonical y).exponent_ge]
  have hpos : 0 < unitsInOne := Nat.pos_of_ne_zero (pow_ne_zero 1074 two_ne_zero)
  exact Int.tdiv_le_tdiv (Int.natCast_pos.2 hpos) (units_le hx hy h)

end Binary

/-- A finite number that is brought into a range and cut off stays between the ends of the range. -/
theorem wholeBetween_range {low high x : Float} (hlow : low.isFinite = true)
    (hhigh : high.isFinite = true) (hx : x.isFinite = true) (hrange : ¬ high < low) :
    (Binary.ofFloat low).truncate.toNat ≤ wholeBetween low high x ∧
      wholeBetween low high x ≤ (Binary.ofFloat high).truncate.toNat := by
  unfold wholeBetween
  by_cases hless : x < low
  · simp only [hless, if_true]
    exact ⟨Nat.le_refl _, Int.toNat_le_toNat (Binary.truncate_le hhigh hlow hrange)⟩
  by_cases hmore : high < x
  · simp only [hless, hmore, if_false, if_true]
    exact ⟨Int.toNat_le_toNat (Binary.truncate_le hhigh hlow hrange), Nat.le_refl _⟩
  · simp only [hless, hmore, if_false]
    exact ⟨Int.toNat_le_toNat (Binary.truncate_le hx hlow hless),
      Int.toNat_le_toNat (Binary.truncate_le hhigh hx hmore)⟩

end PageBuilder
