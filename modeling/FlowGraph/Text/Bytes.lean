import FlowGraph.Number.Radix

/-! # Texts as bytes

The bytes of a text in UTF-8 and back. Where bytes are no UTF-8, the longest start of a character
that goes wrong counts as one mistake: `Text.ofBytes?` then gives nothing, `Text.ofBytesLossy` puts
the replacement character in its place.

`Text.percentEncode` and `Text.percentDecode` work on the bytes of a text. -/

namespace FlowGraph

namespace Text

/-- The bytes of a text. -/
def bytes (s : String) : List UInt8 := s.toUTF8.toList

/-- What a byte says at the start of a character. -/
inductive Lead where
  | char (c : Char)
  /-- How many bytes follow, the bounds of the first of them, and the bits so far. -/
  | more (count low high bits : Nat)
  | wrong

/-- Reads a byte at the start of a character. -/
def lead (b : UInt8) : Lead :=
  let n := b.toNat
  if n < 0x80 then .char (Char.ofNat n)
  else if n < 0xC2 then .wrong
  else if n < 0xE0 then .more 1 0x80 0xBF (n - 0xC0)
  else if n < 0xF0 then
    .more 2 (if n = 0xE0 then 0xA0 else 0x80) (if n = 0xED then 0x9F else 0xBF) (n - 0xE0)
  else if n < 0xF5 then
    .more 3 (if n = 0xF0 then 0x90 else 0x80) (if n = 0xF4 then 0x8F else 0xBF) (n - 0xF0)
  else .wrong

/-- The bytes still expected of a character: how many, the bounds of the next one, and the bits so
far. -/
structure Pending where
  count : Nat
  low : Nat
  high : Nat
  bits : Nat

mutual

/-- The characters of bytes; none for each mistake. -/
def decodeFrom : Option Pending → List UInt8 → List (Option Char)
  | none, [] => []
  | some _, [] => [none]
  | none, b :: bs => decodeStart b bs
  | some p, b :: bs =>
    if p.low ≤ b.toNat ∧ b.toNat ≤ p.high then
      let bits := p.bits * 0x40 + (b.toNat - 0x80)
      if p.count ≤ 1 then some (Char.ofNat bits) :: decodeFrom none bs
      else decodeFrom (some ⟨p.count - 1, 0x80, 0xBF, bits⟩) bs
    else none :: decodeStart b bs
termination_by _ bs => 2 * bs.length

/-- The characters of bytes of which the first starts one. -/
def decodeStart (b : UInt8) (bs : List UInt8) : List (Option Char) :=
  match lead b with
  | .char c => some c :: decodeFrom none bs
  | .wrong => none :: decodeFrom none bs
  | .more count low high bits => decodeFrom (some ⟨count, low, high, bits⟩) bs
termination_by 2 * bs.length + 1

end

/-- The replacement character. -/
def replacement : Char := Char.ofNat 0xFFFD

/-- The text of bytes, with a replacement character for each mistake. -/
def ofBytesLossy (bs : List UInt8) : String :=
  String.ofList ((decodeFrom none bs).map fun c => c.getD replacement)

/-- The text of bytes without a mistake. -/
def ofBytes? (bs : List UInt8) : Option String :=
  ((decodeFrom none bs).mapM id).map String.ofList

/-- A hexadecimal digit in upper case. -/
def upperHex (n : Nat) : Char := ((Nat.toDigits 16 (n % 16)).headD '0').toUpper

/-- A byte by its code. -/
def percentByte (b : UInt8) : List Char := ['%', upperHex (b.toNat / 16), upperHex b.toNat]

/-- The characters of a text, those that `encoded` names and all beyond ASCII by their codes. -/
def percentEncodeChar (encoded : Char → Bool) (c : Char) : List Char :=
  if 0x80 ≤ c.toNat || encoded c then (bytes (String.singleton c)).flatMap percentByte else [c]

/-- A text with the characters that `encoded` names, and all beyond ASCII, by their codes. -/
def percentEncode (encoded : Char → Bool) (cs : List Char) : List Char :=
  cs.flatMap (percentEncodeChar encoded)

/-- The value of a byte that is a hexadecimal digit. -/
def hexValue? (b : UInt8) : Option Nat := hexDigit? (Char.ofNat b.toNat)

/-- Bytes with every code in them replaced by the byte it stands for. -/
def percentDecode : List UInt8 → List UInt8
  | 37 :: a :: b :: rest =>
    match hexValue? a, hexValue? b with
    | some h, some l => UInt8.ofNat (16 * h + l) :: percentDecode rest
    | _, _ => 37 :: percentDecode (a :: b :: rest)
  | b :: rest => b :: percentDecode rest
  | [] => []
termination_by bs => bs.length

/-- The digits of base 64. -/
def base64Alphabet : List Char :=
  "ABCDEFGHIJKLMNOPQRSTUVWXYZabcdefghijklmnopqrstuvwxyz0123456789+/".toList

/-- A digit of base 64. -/
def base64Digit (n : Nat) : Char := (base64Alphabet[n % 64]?).getD 'A'

/-- Bytes in base 64 with its padding. -/
def base64 : List UInt8 → List Char
  | [] => []
  | [a] =>
    [base64Digit (a.toNat / 4), base64Digit (a.toNat * 16), '=', '=']
  | [a, b] =>
    let n := a.toNat * 256 + b.toNat
    [base64Digit (n / 1024), base64Digit (n / 16), base64Digit (n * 4), '=']
  | a :: b :: c :: rest =>
    let n := (a.toNat * 256 + b.toNat) * 256 + c.toNat
    base64Digit (n / 262144) :: base64Digit (n / 4096) :: base64Digit (n / 64) ::
      base64Digit n :: base64 rest

end Text

end FlowGraph
