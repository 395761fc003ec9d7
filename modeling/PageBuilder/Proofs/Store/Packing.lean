import PageBuilder.Store.Packed
import Mathlib.Tactic.Common

/-!
Packed records. What is packed by a lossless packing is read as what its JSON text describes, whatever
the level. A frame of plain blocks loses nothing.
-/

namespace PageBuilder

namespace Frame

/-- The number that a block begins with tells its length and whether it is the last one. -/
theorem readBlocks?_blockStart (last : Bool) {length : Nat} (h : length < 2097152)
    (rest : List UInt8) :
    readBlocks? (blockStart last length ++ rest) =
      if rest.length < length then none
      else if last then if rest.length = length then some rest else none
      else (readBlocks? (rest.drop length)).map (rest.take length ++ ·) := by
  let n := 8 * length + last.toNat
  have hlast : last.toNat < 2 := by cases last <;> decide
  have hread : (UInt8.ofNat n).toNat + 256 * (UInt8.ofNat (n / 256)).toNat +
      65536 * (UInt8.ofNat (n / 65536)).toNat = n := by
    simp only [UInt8.toNat_ofNat']
    omega
  have hlength : n / 8 = length := by omega
  have hkind : n / 2 % 4 = 0 := by omega
  have hend : n % 2 = 1 ↔ last = true := by
    cases last with
    | false =>
      have heven : n = 8 * length := rfl
      simp only [Bool.false_eq_true, iff_false]
      omega
    | true =>
      have hodd : n = 8 * length + 1 := rfl
      simp only [iff_true]
      omega
  change readBlocks? (UInt8.ofNat n :: UInt8.ofNat (n / 256) :: UInt8.ofNat (n / 65536) :: rest) = _
  rw [readBlocks?]
  simp only [hread, hlength, hkind, hend, ne_eq, not_true_eq_false, decide_false, Bool.false_or,
    decide_eq_true_eq]

theorem readBlocks?_blocks (full : Nat) {bytes : List UInt8}
    (h : bytes.length / blockLimit = full) : readBlocks? (blocks full bytes) = some bytes := by
  have hlimit : blockLimit = 131072 := rfl
  rw [hlimit] at h
  induction full generalizing bytes with
  | zero =>
    rw [blocks, readBlocks?_blockStart true (by omega), if_neg (Nat.lt_irrefl _), if_pos rfl,
      if_pos rfl]
  | succ full ih =>
    have hlong : blockLimit ≤ bytes.length := by omega
    have htaken : (bytes.take blockLimit).length = blockLimit := by
      rw [List.length_take, Nat.min_eq_left hlong]
    have hrest : readBlocks? (blocks full (bytes.drop blockLimit)) =
        some (bytes.drop blockLimit) := by
      apply ih
      rw [List.length_drop, hlimit]
      omega
    rw [blocks, List.append_assoc, readBlocks?_blockStart false (by decide),
      List.drop_left' htaken, List.take_left' htaken, hrest, Option.map_some,
      List.take_append_drop, List.length_append, htaken, if_neg (by omega)]
    rfl

theorem packing_lossless : packing.Lossless := by
  intro level contents
  have hread : readBlocks? (blocks (contents.size / blockLimit) contents.toBytes) =
      some contents.toBytes := readBlocks?_blocks _ rfl
  simp only [packing, Blob.toBytes_ofBytes, List.take_left, List.drop_left, if_true, hread,
    Option.map_some, Blob.ofBytes_toBytes]

end Frame

namespace ProjectRecord

variable {p : Packing}

/-- A packed record is read as its JSON text. -/
theorem decode_encode_eq (hp : p.Lossless) (level : Int) (now : Instant) (r : ProjectRecord) :
    decode p now (r.encode p level) =
      match ofText? now r.toJson.compact with
      | some q => .ok q
      | none => .error .noRecord := by
  have hunpacked : p.unpack (p.pack level (.text r.toJson.compact)) =
      some (.text r.toJson.compact) := hp level _
  cases hread : ofText? now r.toJson.compact with
  | none => simp only [encode, decode, hunpacked, Blob.text?_text, Option.bind_some, hread]
  | some q => simp only [encode, decode, hunpacked, Blob.text?_text, Option.bind_some, hread]

end ProjectRecord

end PageBuilder
