import PageBuilder.Bytes
import Mathlib.Data.Nat.Bitwise

/-!
Which texts share a checksum. The check value of a text stands in its eight digits unchanged, so
only texts with the same check value share a checksum. A step of the division is linear and can be
undone; therefore texts that differ in at most four neighbouring bytes never share one.
-/

namespace PageBuilder

section Bits

variable {x y : UInt32}

/-- What a step takes off when the bit that it drops is set. -/
def crcPolynomial : Nat := 0xedb88320

theorem crcBit_toNat (x : UInt32) :
    (crcBit x).toNat = x.toNat / 2 ^^^ (if x.toNat % 2 = 1 then crcPolynomial else 0) := by
  have hodd : x &&& 1 = 1 ↔ x.toNat % 2 = 1 := by
    rw [← UInt32.toNat_inj, UInt32.toNat_and]
    change x.toNat &&& 1 = 1 ↔ _
    rw [Nat.and_one_is_mod]
  have hhalf : (x >>> 1).toNat = x.toNat / 2 := by
    rw [UInt32.toNat_shiftRight]
    exact Nat.shiftRight_eq_div_pow _ 1
  unfold crcBit
  simp only [hodd]
  split
  · rw [UInt32.toNat_xor, hhalf]
    rfl
  · rw [hhalf, Nat.xor_zero]

theorem crcBit_even (h : x.toNat % 2 = 0) : (crcBit x).toNat = x.toNat / 2 := by
  rw [crcBit_toNat, if_neg (by omega), Nat.xor_zero]

theorem crcBit_xor (x y : UInt32) : crcBit (x ^^^ y) = crcBit x ^^^ crcBit y := by
  apply UInt32.toNat_inj.1
  simp only [UInt32.toNat_xor, crcBit_toNat, Nat.xor_div_two, Nat.xor_mod_two_eq]
  rcases Nat.mod_two_eq_zero_or_one x.toNat with hx | hx <;>
    rcases Nat.mod_two_eq_zero_or_one y.toNat with hy | hy
  · simp [Nat.add_mod, hx, hy]
  · simp only [Nat.add_mod, hx, hy, zero_add, if_true, Nat.xor_zero, Nat.one_mod, zero_ne_one,
      if_false]
    ac_rfl
  · simp only [Nat.add_mod, hx, hy, add_zero, if_true, Nat.xor_zero, Nat.one_mod, zero_ne_one,
      if_false]
    ac_rfl
  · -- the polynomial is taken off twice
    have hcancel : x.toNat / 2 ^^^ crcPolynomial ^^^ (y.toNat / 2 ^^^ crcPolynomial) =
        x.toNat / 2 ^^^ y.toNat / 2 ^^^ (crcPolynomial ^^^ crcPolynomial) := by ac_rfl
    rw [Nat.xor_self, Nat.xor_zero] at hcancel
    simp [Nat.add_mod, hx, hy, hcancel]

/-- Only zero is taken to zero: the polynomial has a bit that no half of a word has. -/
theorem crcBit_eq_zero (h : crcBit x = 0) : x = 0 := by
  have hsize := x.toNat_lt
  have hnat := crcBit_toNat x
  rw [h] at hnat
  apply UInt32.toNat_inj.1
  change x.toNat = 0
  change 0 = _ at hnat
  split at hnat
  · have hhalf : x.toNat / 2 = crcPolynomial := Nat.xor_eq_zero_iff.1 hnat.symm
    unfold crcPolynomial at hhalf
    omega
  · rw [Nat.xor_zero] at hnat
    omega

theorem repeat_crcBit_xor (n : Nat) (x y : UInt32) :
    Nat.repeat crcBit n (x ^^^ y) = Nat.repeat crcBit n x ^^^ Nat.repeat crcBit n y := by
  induction n with
  | zero => rfl
  | succ n ih => rw [Nat.repeat, Nat.repeat, Nat.repeat, ih, crcBit_xor]

theorem repeat_crcBit_inj (n : Nat) :
    Nat.repeat crcBit n x = Nat.repeat crcBit n y ↔ x = y := by
  refine ⟨fun h => ?_, congrArg _⟩
  have hzero : Nat.repeat crcBit n (x ^^^ y) = 0 := by
    rw [repeat_crcBit_xor, h, UInt32.xor_self]
  apply UInt32.xor_eq_zero_iff.1
  clear h
  induction n with
  | zero => exact hzero
  | succ n ih => exact ih (crcBit_eq_zero hzero)

/-- Zeros at the end of a word are dropped without a trace. -/
theorem repeat_crcBit_shift (n m k : Nat) (h : x.toNat = k * 2 ^ (n + m)) :
    (Nat.repeat crcBit n x).toNat = k * 2 ^ m := by
  induction n generalizing m with
  | zero => rwa [Nat.zero_add] at h
  | succ n ih =>
    have hrest : (Nat.repeat crcBit n x).toNat = k * 2 ^ m * 2 := by
      rw [ih (m + 1) (by rw [h, Nat.add_assoc, Nat.add_comm 1 m]), Nat.pow_succ, Nat.mul_assoc]
    rw [Nat.repeat, crcBit_even (by omega), hrest]
    omega

/-- A word whose remainder is small ends with a zero byte. -/
theorem toNat_of_repeat_crcBit (h : (Nat.repeat crcBit 8 x).toNat < 2 ^ 24) :
    x.toNat = (Nat.repeat crcBit 8 x).toNat * 256 := by
  generalize hr : Nat.repeat crcBit 8 x = r at h
  have hsize : r.toNat * 256 < 2 ^ 32 := by omega
  have hshift : Nat.repeat crcBit 8 (UInt32.ofNat (r.toNat * 256)) = r := by
    apply UInt32.toNat_inj.1
    have hword : (UInt32.ofNat (r.toNat * 256)).toNat = r.toNat * 2 ^ (8 + 0) :=
      UInt32.toNat_ofNat_of_lt' hsize
    rw [repeat_crcBit_shift 8 0 r.toNat hword, Nat.pow_zero, Nat.mul_one]
  rw [← (repeat_crcBit_inj 8).1 (hshift.trans hr.symm)]
  exact UInt32.toNat_ofNat_of_lt' hsize

end Bits

section Bytes

theorem crcByte_eq (crc : UInt32) (byte : UInt8) :
    crcByte crc byte = Nat.repeat crcBit 8 (crc ^^^ byte.toUInt32) := rfl

/-- What two remainders differ by comes from what the remainders before and the bytes differ by. -/
theorem crcByte_xor (s t : UInt32) (a b : UInt8) :
    crcByte s a ^^^ crcByte t b =
      Nat.repeat crcBit 8 (s ^^^ t ^^^ (a ^^^ b).toUInt32) := by
  rw [crcByte_eq, crcByte_eq, ← repeat_crcBit_xor, UInt8.toUInt32_xor]
  congr 1
  ac_rfl

theorem foldl_crcByte_inj (bytes : List UInt8) {s t : UInt32} :
    bytes.foldl crcByte s = bytes.foldl crcByte t ↔ s = t := by
  refine ⟨fun h => ?_, fun h => by rw [h]⟩
  induction bytes generalizing s t with
  | nil => exact h
  | cons a rest ih =>
    have hstep := UInt32.xor_eq_zero_iff.2 (ih h)
    rw [crcByte_xor, UInt8.xor_self] at hstep
    have hzero : s ^^^ t ^^^ (0 : UInt8).toUInt32 = 0 := (repeat_crcBit_inj 8).1 hstep
    exact UInt32.xor_eq_zero_iff.1 (by simpa using hzero)

variable {as bs : List UInt8} {s t : UInt32}

/-- Where a few bytes lead to one remainder, the remainders before them differ in as many bytes at
most, and these are the low ones. -/
theorem xor_lt_of_foldl_crcByte (hlength : as.length = bs.length) (hshort : as.length ≤ 4)
    (h : as.foldl crcByte s = bs.foldl crcByte t) : (s ^^^ t).toNat < 2 ^ (8 * as.length) := by
  induction as generalizing bs s t with
  | nil =>
    cases bs with
    | cons b bs => cases hlength
    | nil =>
      obtain rfl : s = t := h
      rw [UInt32.xor_self]
      exact Nat.one_pos
  | cons a as ih =>
    cases bs with
    | nil => cases hlength
    | cons b bs =>
      rw [List.length_cons] at hshort ⊢
      have hrest := ih (Nat.succ.inj hlength) (by omega) h
      have hsmall : 2 ^ (8 * as.length) ≤ 2 ^ 24 := Nat.pow_le_pow_right (by decide) (by omega)
      rw [crcByte_xor] at hrest
      have hshift := toNat_of_repeat_crcBit (Nat.lt_of_lt_of_le hrest hsmall)
      have hword : (s ^^^ t ^^^ (a ^^^ b).toUInt32).toNat < 2 ^ (8 * (as.length + 1)) := by
        rw [hshift, Nat.mul_add, Nat.pow_add]
        omega
      have hbyte : (a ^^^ b).toUInt32.toNat < 2 ^ (8 * (as.length + 1)) := by
        rw [UInt8.toNat_toUInt32]
        have hle : 2 ^ 8 ≤ 2 ^ (8 * (as.length + 1)) := Nat.pow_le_pow_right (by decide) (by omega)
        exact Nat.lt_of_lt_of_le (a ^^^ b).toNat_lt hle
      -- taking the byte off again leaves the difference of the remainders
      have hxor := Nat.xor_lt_two_pow hword hbyte
      rwa [← UInt32.toNat_xor, UInt32.xor_assoc, UInt32.xor_self, UInt32.xor_zero] at hxor

/-- Up to four bytes are told apart from any remainder on. -/
theorem eq_of_foldl_crcByte (hlength : as.length = bs.length) (hshort : as.length ≤ 4)
    (h : as.foldl crcByte s = bs.foldl crcByte s) : as = bs := by
  induction as generalizing bs s with
  | nil => exact (List.length_eq_zero_iff.1 hlength.symm).symm
  | cons a as ih =>
    cases bs with
    | nil => cases hlength
    | cons b bs =>
      rw [List.length_cons] at hshort
      have hrest := xor_lt_of_foldl_crcByte (Nat.succ.inj hlength) (by omega) h
      have hsmall : 2 ^ (8 * as.length) ≤ 2 ^ 24 := Nat.pow_le_pow_right (by decide) (by omega)
      rw [crcByte_xor, UInt32.xor_self, UInt32.zero_xor] at hrest
      have hshift := toNat_of_repeat_crcBit (Nat.lt_of_lt_of_le hrest hsmall)
      -- a byte is too small to end with a zero byte, unless it is zero
      have hbyte := (a ^^^ b).toNat_lt
      rw [UInt8.toNat_toUInt32] at hshift
      have hzero : (a ^^^ b).toNat = 0 := by omega
      obtain rfl : a = b := UInt8.xor_eq_zero_iff.1 (UInt8.toNat_inj.1 hzero)
      rw [ih (Nat.succ.inj hlength) (by omega) h]

/-- Bytes that differ in at most four neighbouring places have different check values. -/
theorem crc32_differs (front behind : List UInt8) (hlength : as.length = bs.length)
    (hshort : as.length ≤ 4) :
    crc32 (front ++ as ++ behind) = crc32 (front ++ bs ++ behind) ↔ as = bs := by
  refine ⟨fun h => ?_, fun h => by rw [h]⟩
  unfold crc32 at h
  simp only [UInt32.xor_left_inj, List.foldl_append, foldl_crcByte_inj] at h
  exact eq_of_foldl_crcByte hlength hshort h

end Bytes

section Texts

/-- The value of a hexadecimal digit. -/
def hexDigitValue (c : Char) : Nat := if c.isDigit then c.toNat - 48 else c.toNat - 87

def hexDigitsValue (cs : List Char) : Nat := cs.foldl (fun n c => n * 16 + hexDigitValue c) 0

theorem hexDigitsValue_toDigits (n : Nat) : hexDigitsValue (Nat.toDigits 16 n) = n := by
  have hdigit : ∀ d < 16, hexDigitValue (Nat.digitChar d) = d := by decide
  induction n using Nat.strongRecOn with
  | ind n ih =>
    by_cases hsmall : n < 16
    · rw [Nat.toDigits_of_lt_base hsmall]
      change 0 * 16 + hexDigitValue (Nat.digitChar n) = n
      rw [hdigit n hsmall, Nat.zero_mul, Nat.zero_add]
    · have hrest := ih (n / 16) (by omega)
      unfold hexDigitsValue at hrest ⊢
      rw [Nat.toDigits_of_base_le (by decide) (by omega), List.foldl_append, hrest]
      change n / 16 * 16 + hexDigitValue (Nat.digitChar (n % 16)) = n
      rw [hdigit _ (Nat.mod_lt n (by decide))]
      omega

theorem hexDigitsValue_zeros (k : Nat) (cs : List Char) :
    hexDigitsValue (List.replicate k '0' ++ cs) = hexDigitsValue cs := by
  induction k with
  | zero => rfl
  | succ k ih => exact ih

/-- A checksum stands for the check value. -/
theorem checksum_value (s : String) :
    hexDigitsValue (checksum s).toList = (crc32 s.toUTF8.toList).toNat := by
  unfold checksum
  rw [String.toList_ofList, hexDigitsValue_zeros, hexDigitsValue_toDigits]

theorem checksum_inj {s t : String} :
    checksum s = checksum t ↔ crc32 s.toUTF8.toList = crc32 t.toUTF8.toList := by
  constructor
  · intro h
    rw [← UInt32.toNat_inj, ← checksum_value, h, checksum_value]
  · intro h
    rw [checksum, h, checksum]

theorem checksum_length (s : String) : (checksum s).toList.length = 8 := by
  have hdigits : (Nat.toDigits 16 (crc32 s.toUTF8.toList).toNat).length ≤ 8 :=
    (Nat.length_toDigits_le_iff (by decide) (by decide)).2 (UInt32.toNat_lt _)
  unfold checksum
  rw [String.toList_ofList, List.length_append, List.length_replicate]
  omega

end Texts

end PageBuilder
