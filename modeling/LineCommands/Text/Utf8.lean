import LineCommands.Bytes
/-!
# UTF-8

Two readings of UTF-8 live here.

The *code point codec* writes one code point, surrogates included, in the one to four octet
form and reads the first code point of a byte string back. It checks only the lead byte and
the length; continuation octets are taken by their low six bits. It is what the `\u` escape
uses, and its round trip is `decode (encode cp ++ rest) = (cp, encodedLength cp)`.

The *text reading* follows the Unicode standard: a byte string is text when it splits into
well-formed scalar sequences (no overlong form, no surrogate, nothing above `0x10FFFF`).
`Utf8.lossy` replaces each maximal ill-formed subpart by U+FFFD, one replacement per
subpart, which is the substitution the standard recommends.
-/

namespace LineCommands.Utf8

/-- The largest code point the codec accepts. -/
def maxCodePoint : Nat := 0x10FFFF

/-- Failure of the code point codec. -/
inductive CodecError where
  /-- The lead byte announces `expected` octets but only `available` are present. -/
  | truncated (expected available : Nat)
  /-- The first byte is a continuation byte or no lead byte at all. -/
  | invalidLead (byte : UInt8)
  /-- The code point lies above `maxCodePoint`. -/
  | outOfRange (codePoint : Nat)
  deriving DecidableEq, Repr

/-- The text of a codec failure. -/
def CodecError.message : CodecError → String
  | .truncated e a => s!"missing utf-8 octet: expected {e}, got {a}"
  | .invalidLead b => "invalid utf-8 lead byte 0x" ++ hexPadded 2 b.toNat
  | .outOfRange cp => "code point 0x" ++ hexOfNat cp ++ " is outside the unicode range"

/-- Number of octets that encode `cp`, if it can be encoded. -/
def encodedLength? (cp : Nat) : Option Nat :=
  if cp ≤ 0x7F then some 1
  else if cp ≤ 0x7FF then some 2
  else if cp ≤ 0xFFFF then some 3
  else if cp ≤ maxCodePoint then some 4
  else none

/-- A continuation octet carrying the low six bits of `bits`. -/
def continuationOctet (bits : Nat) : UInt8 := UInt8.ofNat (0x80 + bits % 64)

/-- The octets of a code point: a lead byte announcing the length, then continuation
octets carrying six bits each, most significant first. -/
def encode (cp : Nat) : Except CodecError Bytes :=
  match encodedLength? cp with
  | some 1 => .ok [UInt8.ofNat cp]
  | some 2 => .ok [UInt8.ofNat (0xC0 + cp / 64 % 32), continuationOctet cp]
  | some 3 => .ok [UInt8.ofNat (0xE0 + cp / 4096 % 16), continuationOctet (cp / 64),
      continuationOctet cp]
  | some _ => .ok [UInt8.ofNat (0xF0 + cp / 262144 % 8), continuationOctet (cp / 4096),
      continuationOctet (cp / 64), continuationOctet cp]
  | none => .error (.outOfRange cp)

/-- Length announced by a lead byte and the value bits it carries; `none` for a
continuation octet or a byte that starts no sequence. -/
def leadOf (b : UInt8) : Option (Nat × Nat) :=
  let n := b.toNat
  if n < 0x80 then some (1, n)
  else if n / 32 = 6 then some (2, n % 32)
  else if n / 16 = 14 then some (3, n % 16)
  else if n / 8 = 30 then some (4, n % 8)
  else none

/-- Folds the low six bits of each octet into `acc`, most significant first. -/
def gatherBits (acc : Nat) : Bytes → Nat
  | [] => acc
  | b :: bs => gatherBits (acc * 64 + b.toNat % 64) bs

/-- The first code point of a byte string and the number of octets it takes. Only the
lead byte is checked; the octets after it contribute their low six bits. -/
def decode : Bytes → Except CodecError (Nat × Nat)
  | [] => .error (.truncated 1 0)
  | b :: bs =>
    match leadOf b with
    | none => .error (.invalidLead b)
    | some (len, bits) =>
      if bs.length + 1 < len then .error (.truncated len (bs.length + 1))
      else .ok (gatherBits bits (bs.take (len - 1)), len)

/-! ## Text reading -/

/-- The shape of a well-formed sequence that starts with `b`: how many continuation
octets follow, the range allowed for the first of them, and the value bits of `b`.
The narrowed ranges after `E0`, `ED`, `F0` and `F4` exclude overlong forms, surrogates and
values above `0x10FFFF`. -/
def scalarShape (b : Nat) : Option (Nat × Nat × Nat × Nat) :=
  if b < 0x80 then some (0, 0, 0, b)
  else if 0xC2 ≤ b ∧ b ≤ 0xDF then some (1, 0x80, 0xBF, b % 32)
  else if b = 0xE0 then some (2, 0xA0, 0xBF, 0)
  else if 0xE1 ≤ b ∧ b ≤ 0xEC then some (2, 0x80, 0xBF, b % 16)
  else if b = 0xED then some (2, 0x80, 0x9F, 13)
  else if 0xEE ≤ b ∧ b ≤ 0xEF then some (2, 0x80, 0xBF, b % 16)
  else if b = 0xF0 then some (3, 0x90, 0xBF, 0)
  else if 0xF1 ≤ b ∧ b ≤ 0xF3 then some (3, 0x80, 0xBF, b % 8)
  else if b = 0xF4 then some (3, 0x80, 0x8F, 4)
  else none

/-- Reads `need` continuation octets, the first within `[lo, hi]` and the others within
`[0x80, 0xBF]`, folding their bits into `acc`. On success it gives the scalar value and
the rest; otherwise it stops before the first octet that does not fit, so that the
octets read so far form one maximal ill-formed subpart. -/
def continuation : Nat → Nat → Nat → Nat → Bytes → Option Nat × Bytes
  | 0, _, _, acc, bs => (some acc, bs)
  | _ + 1, _, _, _, [] => (none, [])
  | n + 1, lo, hi, acc, b :: bs =>
    if lo ≤ b.toNat ∧ b.toNat ≤ hi then continuation n 0x80 0xBF (acc * 64 + b.toNat % 64) bs
    else (none, b :: bs)

theorem continuation_length_le (n lo hi acc : Nat) (bs : Bytes) :
    (continuation n lo hi acc bs).2.length ≤ bs.length := by
  induction n generalizing lo hi acc bs with
  | zero => simp [continuation]
  | succ n ih =>
    cases bs with
    | nil => simp [continuation]
    | cons b bs =>
      simp only [continuation]
      split
      · exact Nat.le_trans (ih _ _ _ bs) (Nat.le_succ _)
      · exact Nat.le_refl _

/-- Reads one scalar sequence led by `b`: the scalar, or `none` for a maximal ill-formed
subpart, together with the octets after it. -/
def scalarStep (b : UInt8) (rest : Bytes) : Option Char × Bytes :=
  match scalarShape b.toNat with
  | none => (none, rest)
  | some (n, lo, hi, bits) =>
    let r := continuation n lo hi bits rest
    (r.1.map Char.ofNat, r.2)

theorem scalarStep_length_le (b : UInt8) (rest : Bytes) :
    (scalarStep b rest).2.length ≤ rest.length := by
  unfold scalarStep
  split
  · exact Nat.le_refl _
  · exact continuation_length_le _ _ _ _ _

/-- The scalar values of a byte string in order, with `none` for each maximal ill-formed
subpart. -/
def pieces : Bytes → List (Option Char)
  | [] => []
  | b :: rest =>
    have := scalarStep_length_le b rest
    (scalarStep b rest).1 :: pieces (scalarStep b rest).2
termination_by bs => bs.length

/-- The text of a byte string, when it is well-formed UTF-8. -/
def toText? (bs : Bytes) : Option String :=
  (pieces bs).mapM id |>.map String.ofList

/-- The text of a byte string with each maximal ill-formed subpart replaced by U+FFFD. -/
def lossy (bs : Bytes) : String :=
  String.ofList ((pieces bs).map fun p => p.getD '�')

end LineCommands.Utf8
