import PageBuilder.Proofs.Text.Trim
import PageBuilder.Store.Import
import PageBuilder.Text.Cut

/-!
Base64 and data URIs read back. Three bytes make four digits of six bits, and what is left at the
end is told by the padding; nothing in the digits can be taken for the end of the header.
-/

namespace PageBuilder

section Base64

theorem base64Value?_digit {n : Nat} (h : n < 64) : base64Value? (base64Digit n) = some n := by
  have hall : ∀ n < 64, base64Value? (base64Digit n) = some n := by decide
  exact hall n h

/-- A digit is the digit of its value. -/
theorem base64Digit_of_value {c : Char} {n : Nat} (h : base64Value? c = some n) :
    n < 64 ∧ base64Digit n = c := by
  have hascii : c.toNat < 128 := by
    by_contra hlarge
    have habove (low high : Char) (hhigh : high.toNat < 128) :
        (decide (low ≤ c) && decide (c ≤ high)) = false := by
      have hnot : ¬ c ≤ high := fun hle => hlarge (Nat.lt_of_le_of_lt hle hhigh)
      rw [decide_eq_false hnot, Bool.and_false]
    have hne (d : Char) (hd : d.toNat < 128) : c ≠ d := by
      rintro rfl
      exact hlarge hd
    have hupper := habove 'A' 'Z' (by decide)
    have hlower := habove 'a' 'z' (by decide)
    have hdigit := habove '0' '9' (by decide)
    simp [base64Value?, hupper, hlower, hdigit, hne '+' (by decide), hne '/' (by decide)] at h
  have hall : ∀ k < 128, ∀ n ∈ base64Value? (Char.ofNat k),
      n < 64 ∧ base64Digit n = Char.ofNat k := by decide
  have hdigit := hall c.toNat hascii n (by rwa [Char.ofNat_toNat])
  rwa [Char.ofNat_toNat] at hdigit

theorem base64Digit_ne {n : Nat} (h : n < 64) : base64Digit n ≠ '=' := by
  have hall : ∀ n < 64, base64Digit n ≠ '=' := by decide
  exact hall n h

theorem base64Digit_unblank {n : Nat} (h : n < 64) : isBlank (base64Digit n) = false := by
  have hall : ∀ n < 64, isBlank (base64Digit n) = false := by decide
  exact hall n h

/-- A group that does not end with padding is read by itself. -/
theorem base64Decode?_group {a b c d : Char} (hd : d ≠ '=') (rest : List Char) :
    base64Decode? (a :: b :: c :: d :: rest) = do
      let x ← base64Value? a
      let y ← base64Value? b
      let z ← base64Value? c
      let w ← base64Value? d
      let bytes ← base64Decode? rest
      return UInt8.ofNat (x * 4 + y / 16) :: UInt8.ofNat (y % 16 * 16 + z / 4) ::
        UInt8.ofNat (z % 4 * 64 + w) :: bytes := by
  rw [base64Decode?]
  · intro _ hpad _
    exact hd hpad
  · intro hpad _
    exact hd hpad

theorem uint8_ofNat_eq {a : UInt8} {n : Nat} (h : n = a.toNat) : UInt8.ofNat n = a := by
  rw [h, UInt8.ofNat_toNat]

theorem uint8_toNat_ofNat {n : Nat} (h : n < 256) : (UInt8.ofNat n).toNat = n :=
  UInt8.toNat_ofNat_of_lt' h

theorem base64Decode?_encode (bytes : List UInt8) :
    base64Decode? (base64Encode bytes) = some bytes := by
  have hbyte (a : UInt8) : a.toNat < 256 := a.toNat_lt
  fun_induction base64Encode bytes with
  | case1 => rfl
  | case2 a =>
    -- the second digit holds two bits of the byte and four zeros, which the reader checks
    have ha := hbyte a
    simp only [base64Decode?, base64Value?_digit (show a.toNat / 4 < 64 by omega),
      base64Value?_digit (show a.toNat % 4 * 16 < 64 by omega), Option.bind_eq_bind,
      Option.bind_some]
    rw [if_pos (by omega), uint8_ofNat_eq (a := a) (by omega)]
    rfl
  | case3 a b =>
    -- the third digit ends with two zeros; it is no padding itself
    have ha := hbyte a
    have hb := hbyte b
    have hpad : base64Digit (b.toNat % 16 * 4) ≠ '=' := base64Digit_ne (by omega)
    rw [base64Decode?]
    · simp only [base64Value?_digit (show a.toNat / 4 < 64 by omega),
        base64Value?_digit (show a.toNat % 4 * 16 + b.toNat / 16 < 64 by omega),
        base64Value?_digit (show b.toNat % 16 * 4 < 64 by omega), Option.bind_eq_bind,
        Option.bind_some]
      rw [if_pos (by omega), uint8_ofNat_eq (a := a) (by omega), uint8_ofNat_eq (a := b) (by omega)]
      rfl
    · exact hpad
  | case4 a b c rest ih =>
    have ha := hbyte a
    have hb := hbyte b
    have hc := hbyte c
    rw [base64Decode?_group (base64Digit_ne (by omega))]
    simp only [base64Value?_digit (show a.toNat / 4 < 64 by omega),
      base64Value?_digit (show a.toNat % 4 * 16 + b.toNat / 16 < 64 by omega),
      base64Value?_digit (show b.toNat % 16 * 4 + c.toNat / 64 < 64 by omega),
      base64Value?_digit (show c.toNat % 64 < 64 by omega), ih, Option.bind_eq_bind,
      Option.bind_some]
    rw [uint8_ofNat_eq (a := a) (by omega), uint8_ofNat_eq (a := b) (by omega),
      uint8_ofNat_eq (a := c) (by omega)]
    rfl

/-- Only what is written for bytes is read as them. -/
theorem base64Encode_of_decode? {cs : List Char} {bytes : List UInt8}
    (h : base64Decode? cs = some bytes) : cs = base64Encode bytes := by
  fun_induction base64Decode? cs generalizing bytes with
  | case1 =>
    obtain rfl := Option.some.inj h
    rfl
  | case2 a b =>
    simp only [Option.bind_eq_bind, Option.bind_eq_some_iff] at h
    obtain ⟨x, hx, y, hy, hbyte⟩ := h
    obtain ⟨hx64, rfl⟩ := base64Digit_of_value hx
    obtain ⟨hy64, rfl⟩ := base64Digit_of_value hy
    split at hbyte
    · next hzero =>
      cases hbyte
      have hfirst : (x * 4 + y / 16) / 4 = x := by omega
      have hsecond : (x * 4 + y / 16) % 4 * 16 = y := by omega
      rw [base64Encode, uint8_toNat_ofNat (by omega), hfirst, hsecond]
    · cases hbyte
  | case3 a b c =>
    simp only [Option.bind_eq_bind, Option.bind_eq_some_iff] at h
    obtain ⟨x, hx, y, hy, z, hz, hbytes⟩ := h
    obtain ⟨hx64, rfl⟩ := base64Digit_of_value hx
    obtain ⟨hy64, rfl⟩ := base64Digit_of_value hy
    obtain ⟨hz64, rfl⟩ := base64Digit_of_value hz
    split at hbytes
    · next hzero =>
      cases hbytes
      have hfirst : (x * 4 + y / 16) / 4 = x := by omega
      have hsecond : (x * 4 + y / 16) % 4 * 16 + (y % 16 * 16 + z / 4) / 16 = y := by omega
      have hthird : (y % 16 * 16 + z / 4) % 16 * 4 = z := by omega
      rw [base64Encode, uint8_toNat_ofNat (by omega), uint8_toNat_ofNat (by omega), hfirst, hsecond,
        hthird]
    · cases hbytes
  | case4 a b c d rest _ _ ih =>
    simp only [Option.bind_eq_bind, Option.bind_eq_some_iff] at h
    obtain ⟨x, hx, y, hy, z, hz, w, hw, others, hothers, hbytes⟩ := h
    obtain ⟨hx64, rfl⟩ := base64Digit_of_value hx
    obtain ⟨hy64, rfl⟩ := base64Digit_of_value hy
    obtain ⟨hz64, rfl⟩ := base64Digit_of_value hz
    obtain ⟨hw64, rfl⟩ := base64Digit_of_value hw
    cases hbytes
    have hfirst : (x * 4 + y / 16) / 4 = x := by omega
    have hsecond : (x * 4 + y / 16) % 4 * 16 + (y % 16 * 16 + z / 4) / 16 = y := by omega
    have hthird : (y % 16 * 16 + z / 4) % 16 * 4 + (z % 4 * 64 + w) / 64 = z := by omega
    have hfourth : (z % 4 * 64 + w) % 64 = w := by omega
    rw [base64Encode, uint8_toNat_ofNat (by omega), uint8_toNat_ofNat (by omega),
      uint8_toNat_ofNat (by omega), hfirst, hsecond, hthird, hfourth, ← ih hothers]
  | case5 => cases h

theorem base64Encode_unblank (bytes : List UInt8) : Unblank (base64Encode bytes) := by
  have hbyte (a : UInt8) : a.toNat < 256 := a.toNat_lt
  have hpad : isBlank '=' = false := by decide
  fun_induction base64Encode bytes with
  | case1 => exact List.forall_mem_nil _
  | case2 a =>
    have ha := hbyte a
    exact unblank_cons (base64Digit_unblank (by omega))
      (unblank_cons (base64Digit_unblank (by omega))
        (unblank_cons hpad (unblank_cons hpad (List.forall_mem_nil _))))
  | case3 a b =>
    have ha := hbyte a
    have hb := hbyte b
    exact unblank_cons (base64Digit_unblank (by omega))
      (unblank_cons (base64Digit_unblank (by omega))
        (unblank_cons (base64Digit_unblank (by omega))
          (unblank_cons hpad (List.forall_mem_nil _))))
  | case4 a b c rest ih =>
    have ha := hbyte a
    have hb := hbyte b
    have hc := hbyte c
    exact unblank_cons (base64Digit_unblank (by omega))
      (unblank_cons (base64Digit_unblank (by omega))
        (unblank_cons (base64Digit_unblank (by omega))
          (unblank_cons (base64Digit_unblank (by omega)) ih)))

end Base64

section DataUris

theorem splitAtFirst?_append {separator : Char} {front : List Char} (h : separator ∉ front)
    (rest : List Char) :
    splitAtFirst? separator (front ++ separator :: rest) = some (front, rest) := by
  have hfront : ∀ c ∈ front, (c != separator) = true := by
    intro c hc
    apply bne_iff_ne.2
    rintro rfl
    exact h hc
  have hstop : (separator != separator) = false := bne_self_eq_false _
  unfold splitAtFirst?
  rw [List.dropWhile_append_of_pos hfront, List.takeWhile_append_of_pos hfront,
    List.dropWhile_cons, List.takeWhile_cons, hstop]
  simp

theorem splitAtFirst?_eq_some_iff {separator : Char} {cs front rest : List Char} :
    splitAtFirst? separator cs = some (front, rest) ↔
      cs = front ++ separator :: rest ∧ separator ∉ front := by
  constructor
  · intro h
    have hcs := List.takeWhile_append_dropWhile (p := (· != separator)) (l := cs)
    have hstop := List.head?_dropWhile_not (· != separator) cs
    unfold splitAtFirst? at h
    cases hdrop : cs.dropWhile (· != separator) with
    | nil =>
      rw [hdrop] at h
      cases h
    | cons c behind =>
      rw [hdrop] at h hcs hstop
      cases h
      obtain rfl : c = separator := by simpa using hstop
      refine ⟨hcs.symm, fun hin => ?_⟩
      have hother := List.mem_takeWhile_imp hin
      simp at hother
  · rintro ⟨rfl, hfront⟩
    exact splitAtFirst?_append hfront rest

theorem bytes_toList (bytes : ByteArray) : bytes.toList = bytes.data.toList := by
  -- the loop collects the bytes in front in reverse
  have hloop (i : Nat) (front : List UInt8) :
      ByteArray.toList.loop bytes i front = front.reverse ++ bytes.data.toList.drop i := by
    fun_induction ByteArray.toList.loop bytes i front with
    | case1 i front hlt ih =>
      have hlength : i < bytes.data.toList.length := hlt
      have hget : bytes.get! i = bytes.data.toList[i] := by
        change bytes.data[i]! = _
        rw [getElem!_pos bytes.data i hlt, Array.getElem_toList]
      rw [ih, List.drop_eq_getElem_cons hlength, List.reverse_cons, List.append_assoc, hget]
      rfl
    | case2 i front hge =>
      have hlength : bytes.data.toList.length ≤ i := Nat.le_of_not_lt hge
      rw [List.drop_eq_nil_of_le hlength, List.append_nil]
  rw [ByteArray.toList, hloop]
  rfl

theorem toDataUri_toList (s : String) :
    (toDataUri s).toList =
      "data:application/json;base64".toList ++ ',' :: base64Encode s.toUTF8.toList := by
  rw [toDataUri, String.toList_append, String.toList_ofList]
  have hhead : dataUriHead.toList = "data:application/json;base64".toList ++ [','] := by decide
  rw [hhead, List.append_assoc]
  rfl

theorem toDataUri_unblank (s : String) : Unblank (toDataUri s).toList := by
  rw [toDataUri_toList]
  apply Unblank.append
  · unfold Unblank
    decide
  · exact unblank_cons (by decide) (base64Encode_unblank _)

/-- The texts that are read from data URIs: behind a header for base64 stands what is written for
the bytes of the text. -/
theorem ofDataUri_eq_ok_iff {uri s : String} :
    ofDataUri uri = .ok s ↔
      ∃ head payload, (trim uri).toList = head ++ ',' :: payload ∧ ',' ∉ head ∧
        startsWith (String.ofList head) "data:" = true ∧
        endsWith (String.ofList head) ";base64" = true ∧
        trimChars payload = base64Encode s.toUTF8.toList := by
  have htrimmed (payload : List Char) :
      (trim (String.ofList payload)).toList = trimChars payload := by
    rw [trim, String.toList_ofList, String.toList_ofList]
  constructor
  · intro h
    unfold ofDataUri at h
    split at h
    · cases h
    · next head payload hsplit =>
      obtain ⟨hcs, hcomma⟩ := splitAtFirst?_eq_some_iff.1 hsplit
      dsimp only at h
      split at h
      · next hheader =>
        rw [Bool.and_eq_true] at hheader
        split at h
        · cases h
        · next bytes hbytes =>
          split at h
          · next text htext =>
            obtain rfl := Except.ok.inj h
            refine ⟨head, payload, hcs, hcomma, hheader.1, hheader.2, ?_⟩
            rw [← htrimmed, base64Encode_of_decode? hbytes, fromUTF8?_eq_some_iff.1 htext, bytes_toList]
          · cases h
      · cases h
  · rintro ⟨head, payload, hcs, hcomma, hfront, hback, hpayload⟩
    have htext : String.fromUTF8? ⟨s.toUTF8.toList.toArray⟩ = some s := by
      rw [fromUTF8?_eq_some_iff, bytes_toList]
    unfold ofDataUri
    rw [splitAtFirst?_eq_some_iff.2 ⟨hcs, hcomma⟩]
    simp only [hfront, hback, htrimmed, hpayload, base64Decode?_encode, htext, Bool.and_self, if_true]

/-- The data URI of a text is read as the text. -/
theorem ofDataUri_toDataUri (s : String) : ofDataUri (toDataUri s) = .ok s := by
  rw [ofDataUri_eq_ok_iff]
  refine ⟨"data:application/json;base64".toList, base64Encode s.toUTF8.toList, ?_, by decide,
    by decide, by decide, (base64Encode_unblank _).trim⟩
  rw [trim, String.toList_ofList, (toDataUri_unblank s).trim, toDataUri_toList]

end DataUris

end PageBuilder
