import PageBuilder.Json.Printer
import PageBuilder.Json.Reader
import PageBuilder.Proofs.Numbering
import Mathlib.Tactic.Common

/-!
Scalars read back. A string literal is read as the text it was written for. A number is read as far
as it goes, whatever stands behind it; that its value comes back is known of the integers here, and
is a condition on a double.
-/

namespace PageBuilder.Json

section Strings

theorem stringBody_cons {c : Char} (hquote : c ≠ '"') (hbackslash : c ≠ '\\')
    (hcontrol : ¬ c.toNat < 0x20) (rest : List Char) :
    stringBody (c :: rest) = (stringBody rest).map fun r => (c :: r.1, r.2) := by
  have hplain : ¬ (decide (c = '\\') || decide (c.toNat < 0x20)) = true := by
    simp only [hbackslash, hcontrol, decide_false, Bool.or_self]
    exact Bool.false_ne_true
  rw [stringBody, if_neg hplain]
  all_goals
    intros
    first | exact absurd ‹c = '"'› hquote | exact absurd ‹c = '\\'› hbackslash

/-- A character that is written with four hexadecimal digits is read back. -/
theorem stringBody_hex {a b c d : Char} {n : Nat} (h : hex4Value? a b c d = some n)
    (hn : n < 0xd800) (rest : List Char) :
    stringBody ('\\' :: 'u' :: a :: b :: c :: d :: rest) =
      (stringBody rest).map fun r => (Char.ofNat n :: r.1, r.2) := by
  rw [stringBody, h]
  dsimp only
  rw [if_neg (by simp; omega), if_neg (by simp; omega)]

theorem stringBody_short {c e : Char} (hu : c ≠ 'u') (h : shortEscape? c = some e)
    (rest : List Char) :
    stringBody ('\\' :: c :: rest) = (stringBody rest).map fun r => (e :: r.1, r.2) := by
  rw [stringBody, h]
  intro _ _ _ _ _ hc
  exact absurd hc hu

theorem hex4Value?_hex4 {n : Nat} (h : n < 0x20) :
    hex4Value? (hexDigit (n / 4096 % 16)) (hexDigit (n / 256 % 16)) (hexDigit (n / 16 % 16))
      (hexDigit (n % 16)) = some n := by
  have hdigits : ∀ n < 0x20, hex4Value? (hexDigit (n / 4096 % 16)) (hexDigit (n / 256 % 16))
      (hexDigit (n / 16 % 16)) (hexDigit (n % 16)) = some n := by decide
  exact hdigits n h

theorem stringBody_escapeChar (c : Char) (rest : List Char) :
    stringBody (escapeChar c ++ rest) = (stringBody rest).map fun r => (c :: r.1, r.2) := by
  unfold escapeChar
  split_ifs with hquote hbackslash hfeed hreturn htab hback hform hcontrol
  · subst hquote
    exact stringBody_short (by decide) rfl rest
  · subst hbackslash
    exact stringBody_short (by decide) rfl rest
  · subst hfeed
    exact stringBody_short (by decide) rfl rest
  · subst hreturn
    exact stringBody_short (by decide) rfl rest
  · subst htab
    exact stringBody_short (by decide) rfl rest
  · subst hback
    exact stringBody_short (by decide) rfl rest
  · subst hform
    exact stringBody_short (by decide) rfl rest
  · have hread := stringBody_hex (hex4Value?_hex4 hcontrol) (by omega) rest
    rwa [Char.ofNat_toNat] at hread
  · exact stringBody_cons hquote hbackslash hcontrol rest

theorem stringBody_escaped (cs rest : List Char) :
    stringBody (cs.flatMap escapeChar ++ '"' :: rest) = some (cs, rest) := by
  induction cs with
  | nil => rw [List.flatMap_nil, List.nil_append, stringBody]
  | cons c cs ih =>
    rw [List.flatMap_cons, List.append_assoc, stringBody_escapeChar, ih]
    rfl

end Strings

section Numbers

/-- Characters with which a number can go on. -/
def inNumber (c : Char) : Bool := c.isDigit || c == '.' || c == 'e' || c == 'E'

/-- What stands here does not go on with a number. -/
def EndsNumber (rest : List Char) : Prop := ∀ c ∈ rest.head?, inNumber c = false

theorem endsNumber_nil : EndsNumber [] := by
  intro c hc
  cases hc

theorem endsNumber_cons {c : Char} (h : inNumber c = false) (rest : List Char) :
    EndsNumber (c :: rest) := by
  intro d hd
  obtain rfl : c = d := Option.some.inj hd
  exact h

variable {rest : List Char}

theorem EndsNumber.digits (h : EndsNumber rest) : rest.takeWhile Char.isDigit = [] := by
  cases rest with
  | nil => rfl
  | cons c tail =>
    have hc := h c rfl
    simp only [inNumber, Bool.or_eq_false_iff] at hc
    rw [List.takeWhile_cons, hc.1.1.1]
    rfl

theorem EndsNumber.dropWhile (h : EndsNumber rest) : rest.dropWhile Char.isDigit = rest := by
  have hsplit := List.takeWhile_append_dropWhile (p := Char.isDigit) (l := rest)
  rwa [h.digits, List.nil_append] at hsplit

theorem EndsNumber.takeWhile_append (h : EndsNumber rest) (cs : List Char) :
    (cs ++ rest).takeWhile Char.isDigit = cs.takeWhile Char.isDigit := by
  induction cs with
  | nil => exact h.digits
  | cons c cs ih => simp only [List.cons_append, List.takeWhile_cons, ih]

theorem EndsNumber.dropWhile_append (h : EndsNumber rest) (cs : List Char) :
    (cs ++ rest).dropWhile Char.isDigit = cs.dropWhile Char.isDigit ++ rest := by
  induction cs with
  | nil => exact h.dropWhile
  | cons c cs ih =>
    simp only [List.cons_append, List.dropWhile_cons, ih]
    split <;> rfl

theorem fractionPart?_append (h : EndsNumber rest) {cs fraction after : List Char}
    (hread : fractionPart? cs = some (fraction, after)) :
    fractionPart? (cs ++ rest) = some (fraction, after ++ rest) := by
  unfold fractionPart? at hread
  split at hread
  · next tail =>
    dsimp only at hread
    split at hread
    · cases hread
    · next hsome =>
      obtain ⟨rfl, rfl⟩ := Prod.mk.inj (Option.some.inj hread)
      rw [List.cons_append, fractionPart?]
      rw [h.takeWhile_append, h.dropWhile_append, if_neg hsome]
  · next hpoint =>
    obtain ⟨rfl, rfl⟩ := Prod.mk.inj (Option.some.inj hread)
    unfold fractionPart?
    split
    · next tail heq =>
      -- the point would have to come from what stands behind
      cases cs with
      | nil =>
        have hc := h '.' (by rw [show rest = '.' :: tail from heq]; rfl)
        exact absurd hc (by decide)
      | cons c cs => exact absurd (List.cons.inj heq).1 (fun hc => hpoint cs (by rw [hc]))
    · rfl

/-- The sign of an exponent and what follows it. -/
def exponentSign : List Char → Bool × List Char
  | '-' :: tail => (true, tail)
  | '+' :: tail => (false, tail)
  | tail => (false, tail)

theorem exponentSign_append (c : Char) (cs rest : List Char) :
    exponentSign (c :: cs ++ rest) =
      ((exponentSign (c :: cs)).1, (exponentSign (c :: cs)).2 ++ rest) := by
  by_cases hminus : c = '-'
  · subst hminus
    rfl
  · by_cases hplus : c = '+'
    · subst hplus
      rfl
    · simp [exponentSign, hminus, hplus]

theorem exponentPart?_cons (e : Char) (cs : List Char) :
    exponentPart? (e :: cs) =
      if e = 'e' || e = 'E' then
        let ds := (exponentSign cs).2.takeWhile Char.isDigit
        if ds.isEmpty then none
        else some (some (if (exponentSign cs).1 then -(digitsValue ds : Int) else digitsValue ds),
          (exponentSign cs).2.dropWhile Char.isDigit)
      else some (none, e :: cs) := rfl

theorem exponentPart?_append (h : EndsNumber rest) {cs after : List Char} {exponent : Option Int}
    (hread : exponentPart? cs = some (exponent, after)) :
    exponentPart? (cs ++ rest) = some (exponent, after ++ rest) := by
  cases cs with
  | nil =>
    obtain ⟨rfl, rfl⟩ := Prod.mk.inj (Option.some.inj hread)
    cases rest with
    | nil => rfl
    | cons c tail =>
      have hc := h c rfl
      simp only [inNumber, Bool.or_eq_false_iff, beq_eq_false_iff_ne] at hc
      simp [exponentPart?, hc.1.2, hc.2]
  | cons e cs =>
    rw [exponentPart?_cons] at hread
    rw [List.cons_append, exponentPart?_cons]
    split at hread
    · next he =>
      rw [if_pos he]
      cases cs with
      | nil => cases hread
      | cons c cs =>
        rw [exponentSign_append]
        dsimp only at hread ⊢
        rw [h.takeWhile_append, h.dropWhile_append]
        split at hread
        · cases hread
        · next hsome =>
          obtain ⟨rfl, rfl⟩ := Prod.mk.inj (Option.some.inj hread)
          rw [if_neg hsome]
    · next he =>
      obtain ⟨rfl, rfl⟩ := Prod.mk.inj (Option.some.inj hread)
      rw [if_neg he]
      rfl

/-- The sign of a number and what follows it. -/
def numberSign : List Char → Bool × List Char
  | '-' :: tail => (true, tail)
  | tail => (false, tail)

theorem numberSign_append (c : Char) (cs rest : List Char) :
    numberSign (c :: cs ++ rest) =
      ((numberSign (c :: cs)).1, (numberSign (c :: cs)).2 ++ rest) := by
  by_cases hminus : c = '-'
  · subst hminus
    rfl
  · simp [numberSign, hminus]

theorem writtenNumber?_eq (cs : List Char) :
    writtenNumber? cs =
      let whole := (numberSign cs).2.takeWhile Char.isDigit
      if whole.isEmpty || (whole.head? = some '0' && whole.length ≠ 1) then none
      else (fractionPart? ((numberSign cs).2.dropWhile Char.isDigit)).bind fun f =>
        (exponentPart? f.2).bind fun e =>
          some (⟨(numberSign cs).1, whole, f.1, e.1⟩, e.2) := rfl

theorem writtenNumber?_append (h : EndsNumber rest) {cs after : List Char} {n : WrittenNumber}
    (hread : writtenNumber? cs = some (n, after)) :
    writtenNumber? (cs ++ rest) = some (n, after ++ rest) := by
  cases cs with
  | nil => cases hread
  | cons c cs =>
    rw [writtenNumber?_eq] at hread ⊢
    rw [numberSign_append]
    dsimp only at hread ⊢
    rw [h.takeWhile_append, h.dropWhile_append]
    split at hread
    · cases hread
    · next hwhole =>
      rw [if_neg hwhole]
      obtain ⟨f, hf, hread⟩ := Option.bind_eq_some_iff.1 hread
      obtain ⟨e, he, hread⟩ := Option.bind_eq_some_iff.1 hread
      obtain ⟨rfl, rfl⟩ := Prod.mk.inj (Option.some.inj hread)
      rw [fractionPart?_append h hf, Option.bind_some, exponentPart?_append h he, Option.bind_some]

theorem readNumber?_append (h : EndsNumber rest) {cs after : List Char} {n : Number}
    (hread : readNumber? cs = some (n, after)) :
    readNumber? (cs ++ rest) = some (n, after ++ rest) := by
  obtain ⟨⟨written, tail⟩, hwritten, hread⟩ := Option.bind_eq_some_iff.1 hread
  obtain ⟨value, hvalue, hread⟩ := Option.bind_eq_some_iff.1 hread
  obtain ⟨rfl, rfl⟩ := Prod.mk.inj (Option.some.inj hread)
  simp only [readNumber?, writtenNumber?_append h hwritten, Option.bind_eq_bind, Option.bind_some,
    hvalue]
  rfl

/-- A number starts with a sign or a digit. -/
theorem readNumber?_head {cs after : List Char} {n : Number}
    (hread : readNumber? cs = some (n, after)) :
    ∃ c tail, cs = c :: tail ∧ (c = '-' ∨ c.isDigit = true) := by
  obtain ⟨⟨written, rest⟩, hwritten, -⟩ := Option.bind_eq_some_iff.1 hread
  cases cs with
  | nil => cases hwritten
  | cons c tail =>
    refine ⟨c, tail, rfl, ?_⟩
    by_cases hminus : c = '-'
    · exact Or.inl hminus
    · right
      have hsign : numberSign (c :: tail) = (false, c :: tail) := by simp [numberSign, hminus]
      rw [writtenNumber?_eq, hsign] at hwritten
      dsimp only at hwritten
      by_contra hdigit
      rw [List.takeWhile_cons, if_neg hdigit] at hwritten
      cases hwritten

/-- What is written for a number is read as an equal number. -/
def Number.ReadsBack (n : Number) : Prop :=
  ∃ m, readNumber? n.chars = some (m, []) ∧ m.same n = true

/-- What is written for a number is read as the number itself. -/
def Number.ReadsItself (n : Number) : Prop := readNumber? n.chars = some (n, [])

section Integers

theorem le_digits_foldl (ds : List Char) (n : Nat) :
    n ≤ ds.foldl (fun n c => n * 10 + (c.toNat - '0'.toNat)) n := by
  induction ds generalizing n with
  | nil => exact Nat.le_refl n
  | cons c ds ih =>
    have hrest := ih (n * 10 + (c.toNat - '0'.toNat))
    rw [List.foldl_cons]
    omega

/-- Digits of a value that 64 bits hold are all taken in. -/
theorem appendDigits_eq (n : Nat) (ds : List Char)
    (h : ds.foldl (fun n c => n * 10 + (c.toNat - '0'.toNat)) n < wordLimit) :
    appendDigits n ds = (ds.foldl (fun n c => n * 10 + (c.toNat - '0'.toNat)) n, 0) := by
  induction ds generalizing n with
  | nil => rfl
  | cons c ds ih =>
    rw [List.foldl_cons] at h ⊢
    have hnext := Nat.lt_of_le_of_lt (le_digits_foldl ds _) h
    rw [appendDigits, if_pos hnext, ih _ h]

/-- The digits of a positive number do not start with a zero. -/
theorem toDigits_head {n : Nat} (h : 0 < n) : (Nat.toDigits 10 n).head? ≠ some '0' := by
  induction n using Nat.strongRecOn with
  | _ n ih =>
    by_cases hsmall : n < 10
    · rw [Nat.toDigits_of_lt_base hsmall]
      have hdigit : ∀ n < 10, 0 < n → [Nat.digitChar n].head? ≠ some '0' := by decide
      exact hdigit n hsmall h
    · rw [Nat.toDigits_of_base_le (by decide) (by omega)]
      rw [List.head?_append_of_ne_nil _ Nat.toDigits_ne_nil]
      exact ih (n / 10) (by omega) (by omega)

theorem writtenNumber?_toDigits (n : Nat) (negative : Bool) :
    writtenNumber? ((if negative then ['-'] else []) ++ Nat.toDigits 10 n) =
      some (⟨negative, Nat.toDigits 10 n, [], none⟩, []) := by
  have hdigit : ∀ c ∈ Nat.toDigits 10 n, c.isDigit = true := by
    intro c hc
    exact Nat.isDigit_of_mem_toDigits (by decide) (by decide) hc
  have hsign : numberSign ((if negative then ['-'] else []) ++ Nat.toDigits 10 n) =
      (negative, Nat.toDigits 10 n) := by
    cases negative with
    | true => rfl
    | false =>
      rw [if_neg Bool.false_ne_true, List.nil_append]
      unfold numberSign
      split
      · next tail heq =>
        -- a sign is no digit
        have hminus := hdigit '-' (by rw [heq]; exact List.mem_cons_self ..)
        cases hminus
      · rfl
  have htake : (Nat.toDigits 10 n).takeWhile Char.isDigit = Nat.toDigits 10 n := by
    have happend : (Nat.toDigits 10 n ++ []).takeWhile Char.isDigit =
        Nat.toDigits 10 n ++ [].takeWhile Char.isDigit := List.takeWhile_append_of_pos hdigit
    rwa [List.append_nil, List.takeWhile_nil, List.append_nil] at happend
  have hdrop : (Nat.toDigits 10 n).dropWhile Char.isDigit = [] := by
    have happend : (Nat.toDigits 10 n ++ []).dropWhile Char.isDigit =
        [].dropWhile Char.isDigit := List.dropWhile_append_of_pos hdigit
    rwa [List.append_nil, List.dropWhile_nil] at happend
  have hwhole : ((Nat.toDigits 10 n).isEmpty ||
      (decide ((Nat.toDigits 10 n).head? = some '0') &&
        decide ((Nat.toDigits 10 n).length ≠ 1))) = false := by
    rw [Bool.or_eq_false_iff]
    refine ⟨List.isEmpty_eq_false_iff.2 Nat.toDigits_ne_nil, ?_⟩
    by_cases hzero : n = 0
    · subst hzero
      rfl
    · rw [decide_eq_false (toDigits_head (Nat.pos_of_ne_zero hzero)), Bool.false_and]
  rw [writtenNumber?_eq, hsign]
  dsimp only
  rw [htake, hdrop, if_neg (by rw [hwhole]; exact Bool.false_ne_true)]
  rfl

theorem readNumber?_toDigits {n : Nat} (h : n < wordLimit) (negative : Bool) :
    readNumber? ((if negative then ['-'] else []) ++ Nat.toDigits 10 n) =
      some (integerNumber negative n, []) := by
  have hdigits : appendDigits 0 (Nat.toDigits 10 n) = (n, 0) := by
    have hvalue : (Nat.toDigits 10 n).foldl (fun n c => n * 10 + (c.toNat - '0'.toNat)) 0 = n :=
      IdSource.digitsValue_toDigits n
    have hall := appendDigits_eq 0 (Nat.toDigits 10 n) (by rwa [hvalue])
    rwa [hvalue] at hall
  simp [readNumber?, writtenNumber?_toDigits, WrittenNumber.value?, hdigits]

/-- The integers of 64 bits, with or without a sign, read back. -/
theorem Number.readsItself_int {n : Int} (hlow : -signedLimit ≤ n) (hhigh : n < wordLimit) :
    (Number.int n).ReadsItself := by
  unfold Number.ReadsItself
  cases n with
  | ofNat k =>
    have hchars : (Number.int (Int.ofNat k)).chars = Nat.toDigits 10 k := by
      change (Nat.repr k).toList = _
      exact Nat.toList_repr
    rw [hchars]
    exact readNumber?_toDigits (Int.ofNat_lt.1 hhigh) false
  | negSucc k =>
    have hchars : (Number.int (Int.negSucc k)).chars = '-' :: Nat.toDigits 10 (k + 1) := by
      change ("-" ++ Nat.repr (k + 1)).toList = _
      rw [String.toList_append, Nat.toList_repr]
      rfl
    have hk : k + 1 ≤ signedLimit := by omega
    have hnumber : integerNumber true (k + 1) = .int (Int.negSucc k) := by
      have hsmall : ¬ signedLimit < k + 1 := by omega
      simp [integerNumber, hsmall]
      omega
    rw [hchars, ← hnumber]
    exact readNumber?_toDigits (Nat.lt_of_le_of_lt hk (by decide)) true

theorem Number.readsBack_int {n : Int} (hlow : -signedLimit ≤ n) (hhigh : n < wordLimit) :
    (Number.int n).ReadsBack :=
  ⟨.int n, Number.readsItself_int hlow hhigh, by simp [Number.same]⟩

end Integers

end Numbers

end PageBuilder.Json
