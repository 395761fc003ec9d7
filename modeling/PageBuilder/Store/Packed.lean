import PageBuilder.Files.Entry
import PageBuilder.Json.Reader
import PageBuilder.Store.Record

/-!
The stored form of records: their JSON text, packed. How it is packed is left open, so everything
that stores records is given a packing. The one that is written out here keeps contents as they are,
cut into the blocks of a frame; the lowest levels of compression do the same with short texts.
-/

namespace PageBuilder

/-- A way to pack contents, as hard as a level asks for, and to unpack them. -/
structure Packing where
  pack : Int → Blob → Blob
  unpack : Blob → Option Blob

/-- What is packed is unpacked again, whatever the level. -/
def Packing.Lossless (p : Packing) : Prop :=
  ∀ level contents, p.unpack (p.pack level contents) = some contents

namespace Frame

/-- What a frame begins with: its four marks, no options, and the size of its window. -/
def start : List UInt8 := [0x28, 0xb5, 0x2f, 0xfd, 0x00, 0x48]

/-- The most bytes in a block. -/
def blockLimit : Nat := 131072

/-- What a block of plain bytes begins with: its length, and whether it is the last one. -/
def blockStart (last : Bool) (length : Nat) : List UInt8 :=
  let n := 8 * length + last.toNat
  [UInt8.ofNat n, UInt8.ofNat (n / 256), UInt8.ofNat (n / 65536)]

/-- Some full blocks, and a last one with what is left. -/
def blocks : (full : Nat) → List UInt8 → List UInt8
  | 0, bytes => blockStart true bytes.length ++ bytes
  | full + 1, bytes =>
    blockStart false blockLimit ++ bytes.take blockLimit ++ blocks full (bytes.drop blockLimit)

/-- The bytes in blocks, up to the last one. Blocks of other kinds are not read. -/
def readBlocks? : List UInt8 → Option (List UInt8)
  | a :: b :: c :: rest =>
    let n := a.toNat + 256 * b.toNat + 65536 * c.toNat
    if n / 2 % 4 ≠ 0 || rest.length < n / 8 then none
    else if n % 2 = 1 then if rest.length = n / 8 then some rest else none
    else (readBlocks? (rest.drop (n / 8))).map (rest.take (n / 8) ++ ·)
  | _ => none
termination_by bytes => bytes.length

/-- Packing that keeps contents as they are, in a frame. -/
def packing : Packing where
  pack _ contents :=
    .ofBytes (start ++ blocks (contents.size / blockLimit) contents.toBytes)
  unpack packed :=
    if packed.toBytes.take start.length = start then
      (readBlocks? (packed.toBytes.drop start.length)).map .ofBytes
    else none

end Frame

/-- Why a stored value is no record. -/
inductive DecodeError where
  /-- The value is not in packed form. -/
  | notPacked
  /-- The unpacked contents describe no record. -/
  | noRecord
deriving DecidableEq, Repr

namespace DecodeError

def detail : DecodeError → String
  | .notPacked => "not in packed form"
  | .noRecord => "not a project record"

def message : DecodeError → String
  | .notPacked => "Compression error: " ++ notPacked.detail
  | .noRecord => "Serialization error: " ++ noRecord.detail

end DecodeError

namespace ProjectRecord

/-- A record in the form it is stored in. -/
def encode (p : Packing) (level : Int) (r : ProjectRecord) : Blob :=
  p.pack level (.text r.toJson.compact)

/-- The record that a JSON text describes. -/
def ofText? (now : Instant) (s : String) : Option ProjectRecord :=
  (Json.readOutlined? outline s).bind (ofJson? now)

/-- The record that a stored value holds. -/
def decode (p : Packing) (now : Instant) (value : Blob) : Except DecodeError ProjectRecord :=
  match p.unpack value with
  | none => .error .notPacked
  | some contents =>
    match contents.text?.bind (ofText? now) with
    | some r => .ok r
    | none => .error .noRecord

/-- The record that a stored value holds, if it holds one. -/
def decode? (p : Packing) (now : Instant) (value : Blob) : Option ProjectRecord :=
  (decode p now value).toOption

end ProjectRecord

end PageBuilder
