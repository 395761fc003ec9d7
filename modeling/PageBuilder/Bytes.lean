/-!
Texts for bytes: base64 with the standard alphabet and padding, and the 32-bit cyclic redundancy
check with the reversed polynomial `0xedb88320` as eight hexadecimal digits. Reading base64 is
strict: only full groups of four, padding only at the end, and no bits that the padding leaves
unused.
-/

namespace PageBuilder

def base64Digit (n : Nat) : Char :=
  if n < 26 then Char.ofNat ('A'.toNat + n)
  else if n < 52 then Char.ofNat ('a'.toNat + (n - 26))
  else if n < 62 then Char.ofNat ('0'.toNat + (n - 52))
  else if n = 62 then '+' else '/'

def base64Value? (c : Char) : Option Nat :=
  if 'A' ≤ c && c ≤ 'Z' then some (c.toNat - 'A'.toNat)
  else if 'a' ≤ c && c ≤ 'z' then some (c.toNat - 'a'.toNat + 26)
  else if '0' ≤ c && c ≤ '9' then some (c.toNat - '0'.toNat + 52)
  else if c = '+' then some 62
  else if c = '/' then some 63
  else none

/-- The text of a list of bytes. -/
def base64Encode : List UInt8 → List Char
  | [] => []
  | [a] => [base64Digit (a.toNat / 4), base64Digit (a.toNat % 4 * 16), '=', '=']
  | [a, b] =>
    [base64Digit (a.toNat / 4), base64Digit (a.toNat % 4 * 16 + b.toNat / 16),
      base64Digit (b.toNat % 16 * 4), '=']
  | a :: b :: c :: rest =>
    base64Digit (a.toNat / 4) :: base64Digit (a.toNat % 4 * 16 + b.toNat / 16) ::
      base64Digit (b.toNat % 16 * 4 + c.toNat / 64) :: base64Digit (c.toNat % 64) ::
      base64Encode rest

def base64Decode? : List Char → Option (List UInt8)
  | [] => some []
  | [a, b, '=', '='] => do
    let x ← base64Value? a
    let y ← base64Value? b
    if y % 16 = 0 then return [UInt8.ofNat (x * 4 + y / 16)] else none
  | [a, b, c, '='] => do
    let x ← base64Value? a
    let y ← base64Value? b
    let z ← base64Value? c
    if z % 4 = 0 then
      return [UInt8.ofNat (x * 4 + y / 16), UInt8.ofNat (y % 16 * 16 + z / 4)]
    else none
  | a :: b :: c :: d :: rest => do
    let x ← base64Value? a
    let y ← base64Value? b
    let z ← base64Value? c
    let w ← base64Value? d
    let bytes ← base64Decode? rest
    return UInt8.ofNat (x * 4 + y / 16) :: UInt8.ofNat (y % 16 * 16 + z / 4) ::
      UInt8.ofNat (z % 4 * 64 + w) :: bytes
  | _ => none

/-- One bit of the division. -/
def crcBit (crc : UInt32) : UInt32 :=
  if crc &&& 1 = 1 then (crc >>> 1) ^^^ 0xedb88320 else crc >>> 1

/-- The remainder after one more byte. -/
def crcByte (crc : UInt32) (byte : UInt8) : UInt32 :=
  Nat.repeat crcBit 8 (crc ^^^ byte.toUInt32)

/-- The check value of a list of bytes. -/
def crc32 (bytes : List UInt8) : UInt32 := bytes.foldl crcByte 0xffffffff ^^^ 0xffffffff

/-- Eight hexadecimal digits of the check value of a text's bytes. -/
def checksum (s : String) : String :=
  let digits := Nat.toDigits 16 (crc32 s.toUTF8.toList).toNat
  String.ofList (List.replicate (8 - digits.length) '0' ++ digits)

end PageBuilder
