/-!
# Binary floating point formats

A value of an IEEE 754 binary interchange format is a bit pattern: a sign bit, an exponent
field and a fraction field. This module reads such patterns as exact values and rounds
exact rationals into them, in plain natural number arithmetic, so that every float the
library produces or prints is a function of its bits.

What this module delivers:

* `BinaryFormat` with `single` (binary32) and `double` (binary64);
* `BinaryFormat.decode`, the class of a pattern: NaN, an infinity, or a finite value
  `significand * 2 ^ exponent` with its sign;
* `BinaryFormat.roundRatio`, the pattern nearest to a non-negative rational, ties to an
  even significand, and infinity beyond the largest finite value;
* arithmetic on patterns that rounds the exact result once (`mulRound`, `divRound`) and
  the conversion between formats (`convert`).
-/

namespace LineCommands

/-- An IEEE 754 binary interchange format: the widths of its fraction and exponent
fields. -/
structure BinaryFormat where
  fractionBits : Nat
  exponentBits : Nat
  deriving DecidableEq, Repr

/-- A decoded bit pattern. A finite value is `significand * 2 ^ exponent`, negated when
`negative`. -/
inductive Decoded where
  | nan (negative : Bool)
  | infinity (negative : Bool)
  | finite (negative : Bool) (significand : Nat) (exponent : Int)
  deriving DecidableEq, Repr

namespace BinaryFormat

/-- binary32: 23 fraction bits, 8 exponent bits. -/
def single : BinaryFormat := ⟨23, 8⟩

/-- binary64: 52 fraction bits, 11 exponent bits. -/
def double : BinaryFormat := ⟨52, 11⟩

variable (f : BinaryFormat)

/-- Number of bits of a pattern. -/
def width : Nat := f.fractionBits + f.exponentBits + 1

/-- The weight of the sign bit. -/
def signWeight : Nat := Nat.pow 2 (f.fractionBits + f.exponentBits)

/-- The weight of the lowest exponent bit. -/
def unit : Nat := Nat.pow 2 f.fractionBits

/-- The exponent field of infinities and NaNs. -/
def topField : Nat := Nat.pow 2 f.exponentBits - 1

/-- The pattern of positive infinity. -/
def infinityBits : Nat := f.topField * f.unit

/-- The pattern of the positive quiet NaN. -/
def nanBits : Nat := f.infinityBits + f.unit / 2

/-- The exponent of the last place of a subnormal value: `2 - 2 ^ (e - 1) - p` for an
exponent width `e` and `p - 1` fraction bits. -/
def quantumExponent : Int := 2 - (Nat.pow 2 (f.exponentBits - 1) : Nat) - (f.fractionBits : Int)

/-- The exponent of the leading bit of the least normal value. -/
def leastNormalExponent : Int := f.quantumExponent + f.fractionBits

/-- Whether the sign bit is set. -/
def signOf (bits : Nat) : Bool := bits / f.signWeight % 2 = 1

/-- The pattern without its sign bit. -/
def magnitude (bits : Nat) : Nat := bits % f.signWeight

/-- The exponent field. -/
def fieldOf (bits : Nat) : Nat := f.magnitude bits / f.unit

/-- The fraction field. -/
def fractionOf (bits : Nat) : Nat := f.magnitude bits % f.unit

/-- The class and exact value of a pattern. A zero exponent field holds subnormal values
with the quantum exponent; a top field holds infinities (zero fraction) and NaNs. -/
def decode (bits : Nat) : Decoded :=
  let neg := f.signOf bits
  let field := f.fieldOf bits
  let frac := f.fractionOf bits
  if field = f.topField then (if frac = 0 then .infinity neg else .nan neg)
  else if field = 0 then .finite neg frac f.quantumExponent
  else .finite neg (frac + f.unit) (f.quantumExponent + (field - 1 : Nat))

/-- The pattern with the sign bit set as `negative` says. -/
def withSign (negative : Bool) (mag : Nat) : Nat := if negative then mag + f.signWeight else mag

/-- The largest `e` with `2 ^ e ≤ num / den`, for positive `num` and `den`. -/
def floorLog2 (num den : Nat) : Int :=
  let k : Int := (Nat.log2 num : Int) - (Nat.log2 den : Int)
  if 0 ≤ k then (if den * Nat.pow 2 k.toNat ≤ num then k else k - 1)
  else (if den ≤ num * Nat.pow 2 (-k).toNat then k else k - 1)

/-- The quotient `num / den` rounded to the nearest integer, a tie going to the even one. -/
def divRoundEven (num den : Nat) : Nat :=
  let q := num / den
  let r := num % den
  if 2 * r > den ∨ (2 * r = den ∧ q % 2 = 1) then q + 1 else q

/-- The unsigned pattern nearest to the rational `num / den`, a tie going to the even
significand; values beyond the largest finite one become infinity. The place of the last
bit is that of the leading bit less the fraction width, but never below the quantum
exponent, which gives the subnormal values. Adding the significand to the scaled
exponent lets a carry out of the significand move into the exponent field. -/
def roundRatio (num den : Nat) : Nat :=
  if num = 0 ∨ den = 0 then 0
  else
    let e := max (floorLog2 num den) f.leastNormalExponent
    let q := e - f.fractionBits
    let n :=
      if 0 ≤ q then divRoundEven num (den * Nat.pow 2 q.toNat)
      else divRoundEven (num * Nat.pow 2 (-q).toNat) den
    min ((e - f.leastNormalExponent).toNat * f.unit + n) f.infinityBits

/-- The exact value of a finite decoded pattern as a numerator and a denominator. -/
def ratioOf (significand : Nat) (exponent : Int) : Nat × Nat :=
  if 0 ≤ exponent then (significand * Nat.pow 2 exponent.toNat, 1)
  else (significand, Nat.pow 2 (-exponent).toNat)

/-- The pattern of an integer, rounded once. -/
def ofInt (i : Int) : Nat := f.withSign (i < 0) (f.roundRatio i.natAbs 1)

/-- The product of two finite patterns, rounded once; `none` when either is not finite. -/
def mulRound (a b : Nat) : Option Nat :=
  match f.decode a, f.decode b with
  | .finite sa ma ea, .finite sb mb eb =>
    let (n, d) := ratioOf (ma * mb) (ea + eb)
    some (f.withSign (sa != sb) (f.roundRatio n d))
  | _, _ => none

/-- The quotient of two finite patterns, rounded once; `none` when either is not finite
or the divisor is zero. -/
def divRound (a b : Nat) : Option Nat :=
  match f.decode a, f.decode b with
  | .finite sa ma ea, .finite sb mb eb =>
    if mb = 0 then none
    else
      let (n1, d1) := ratioOf ma ea
      let (n2, d2) := ratioOf mb eb
      some (f.withSign (sa != sb) (f.roundRatio (n1 * d2) (d1 * n2)))
  | _, _ => none

/-- Whether a pattern is an infinity. -/
def isInfinite (bits : Nat) : Bool :=
  match f.decode bits with
  | .infinity _ => true
  | _ => false

/-- Whether a pattern is a zero of either sign. -/
def isZero (bits : Nat) : Bool := f.magnitude bits = 0

end BinaryFormat

/-- The pattern of `bits` in format `src` rounded into format `dst`. Infinities and zeros
keep their sign; a NaN becomes the quiet NaN of `dst` with the same sign. -/
def BinaryFormat.convert (src dst : BinaryFormat) (bits : Nat) : Nat :=
  match src.decode bits with
  | .nan s => dst.withSign s dst.nanBits
  | .infinity s => dst.withSign s dst.infinityBits
  | .finite s m e =>
    let (n, d) := BinaryFormat.ratioOf m e
    dst.withSign s (dst.roundRatio n d)

end LineCommands
