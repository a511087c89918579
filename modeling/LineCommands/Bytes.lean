/-!
# Byte strings and their hexadecimal spelling

An argument is a byte string: an escape sequence can produce any octet, so the value of a
token need not be UTF-8 text. This module fixes the representation used everywhere in the
library, `Bytes`, a list of octets, and the lowercase hexadecimal spelling with which bytes
and numbers are shown.

What this module delivers:

* `Bytes`, with `Bytes.ofString` for the UTF-8 bytes of a text;
* `Bytes.toHex` and `Bytes.ofHex?`, two lowercase digits per octet and back;
* `hexOfNat` and `hexPadded`, a number in lowercase hexadecimal without and with
  leading zeros.
-/

namespace LineCommands

/-- A byte string. A list keeps every operation on it structural. -/
abbrev Bytes := List UInt8

/-- Lowercase hexadecimal digit of a value below sixteen. -/
def hexDigit (n : Nat) : Char :=
  if n < 10 then Char.ofNat (48 + n) else Char.ofNat (87 + n)

/-- Value of a hexadecimal digit of either case. -/
def hexDigitValue? (c : Char) : Option Nat :=
  if '0' ≤ c ∧ c ≤ '9' then some (c.toNat - 48)
  else if 'a' ≤ c ∧ c ≤ 'f' then some (c.toNat - 87)
  else if 'A' ≤ c ∧ c ≤ 'F' then some (c.toNat - 55)
  else none

/-- A number in lowercase hexadecimal, without leading zeros (`0` for zero). -/
def hexOfNat (n : Nat) : String := String.ofList (Nat.toDigits 16 n)

/-- A number in lowercase hexadecimal, padded with zeros on the left to `width` digits. -/
def hexPadded (width n : Nat) : String :=
  let ds := Nat.toDigits 16 n
  String.ofList (List.replicate (width - ds.length) '0' ++ ds)

namespace Bytes

/-- The UTF-8 bytes of a text. -/
def ofString (s : String) : Bytes := s.toUTF8.toList

/-- The two lowercase hexadecimal digits of one octet. -/
def octetHex (b : UInt8) : List Char := [hexDigit (b.toNat / 16), hexDigit (b.toNat % 16)]

/-- Lowercase hexadecimal spelling, two digits per octet. -/
def toHex (bs : Bytes) : String := String.ofList (bs.flatMap octetHex)

/-- Reads pairs of hexadecimal digits of either case; `none` on an odd count or a
character that is not a digit. -/
def ofHexChars? : List Char → Option Bytes
  | [] => some []
  | [_] => none
  | a :: b :: rest => do
    let hi ← hexDigitValue? a
    let lo ← hexDigitValue? b
    let tail ← ofHexChars? rest
    pure (UInt8.ofNat (hi * 16 + lo) :: tail)

/-- Reads a hexadecimal spelling back into bytes. -/
def ofHex? (s : String) : Option Bytes := ofHexChars? s.toList

end Bytes

end LineCommands
