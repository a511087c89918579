import LineCommands.Number.Binary
/-!
# Shortest decimal text of a binary float

Every finite pattern owns an interval of reals that round to it. The text of a float is the
decimal with the fewest significant digits inside that interval; of the two candidates on
the last digit's grid, the one nearer to the value wins, and an exact tie goes to the
larger. Digits are counted from the place of the interval's upper end, so a value just
below a power of ten whose interval reaches past it is written as that power.

The layout (`BinaryFormat.render`) is positional, with at least one fractional digit, when
the magnitude is zero or lies in `[1e-4, 1e16)` (both bounds rounded into the format), and
otherwise `d.ddde<exp>` with no plus sign and no leading zeros in the exponent. Special
values read `NaN`, `inf` and `-inf`; zeros keep their sign.

What this module delivers: `BinaryFormat.interval` (the rounding interval of a pattern),
`BinaryFormat.shortest` (digits and point position) and `BinaryFormat.render`.
-/

namespace LineCommands

/-- The rounding interval of a positive finite pattern, scaled to integers: the value is
`mant * 2 ^ exp`, and the reals from `(mant - minus) * 2 ^ exp` to `(mant + plus) * 2 ^ exp`
round to it, the ends included when `inclusive`. -/
structure RoundingInterval where
  mant : Nat
  minus : Nat
  plus : Nat
  exp : Int
  inclusive : Bool
  deriving DecidableEq, Repr

/-- Decimal digits of a natural number, most significant first, as characters. -/
def decimalChars (n : Nat) : List Char := Nat.toDigits 10 n

/-- Drops the zeros at the end of a digit string. -/
def dropTrailingZeros (ds : List Char) : List Char :=
  (ds.reverse.dropWhile (· = '0')).reverse

namespace BinaryFormat

variable (f : BinaryFormat)

/-- The rounding interval of a positive finite pattern. Neighbours lie one quantum away,
except below the lowest pattern of a binade of normal values, where the neighbour is half
a quantum away. A subnormal pattern is scaled by two first and so counts as even. -/
def interval (bits : Nat) : RoundingInterval :=
  let field := f.fieldOf bits
  let frac := f.fractionOf bits
  if field = 0 then ⟨2 * frac, 1, 1, f.quantumExponent - 1, true⟩
  else
    let m := frac + f.unit
    let q := f.quantumExponent + (field - 1 : Nat)
    if frac = 0 then ⟨4 * m, 1, 2, q - 2, m % 2 = 0⟩
    else ⟨2 * m, 1, 1, q - 1, m % 2 = 0⟩

/-- Whether `num / den` lies at or above `10 ^ k` (strictly above when `strict`). -/
def reachesPow10 (num den : Nat) (k : Int) (strict : Bool) : Bool :=
  let (a, b) := if 0 ≤ k then (num, den * Nat.pow 10 k.toNat) else (num * Nat.pow 10 (-k).toNat, den)
  if strict then b < a else b ≤ a

/-- The place of the first digit: the least `k` with `num / den` below `10 ^ k` (at most
`10 ^ k` when `inclusive` is false). -/
def leadingPlace (num den : Nat) (inclusive : Bool) : Int :=
  let base : Int := ((decimalChars num).length : Int) - ((decimalChars den).length : Int)
  let candidates : List Int := [base - 1, base, base + 1]
  (candidates.find? fun k => !reachesPow10 num den k (!inclusive)).getD (base + 1)

/-- Digit generation. With `n` digits the grid step is `10 ^ (place - n)`; it stops at the
first `n` where the value truncated to the grid, or the next point of the grid, lies in
the interval, and takes the nearer of the two that do, a tie going up. The result is the
integer of the digits and the place of the last one. -/
def generate (iv : RoundingInterval) (place : Int) : Nat → Nat → Nat × Int
  | 0, n => (0, place - n)
  | fuel + 1, n =>
    let lastPlace := place - n
    let a := Nat.pow 2 (max iv.exp 0).toNat * Nat.pow 10 (max (-lastPlace) 0).toNat
    let s := Nat.pow 10 (max lastPlace 0).toNat * Nat.pow 2 (max (-iv.exp) 0).toNat
    let v := iv.mant * a
    let t := v / s
    let r := v % s
    let down := if iv.inclusive then r ≤ iv.minus * a else r < iv.minus * a
    let up := if iv.inclusive then s - r ≤ iv.plus * a else s - r < iv.plus * a
    if down || up then
      (if up && (!down || s ≤ 2 * r) then t + 1 else t, lastPlace)
    else generate iv place fuel (n + 1)

/-- The shortest digits of a positive finite pattern, without trailing zeros, and the
position of the decimal point: the value is `0.d₁d₂… * 10 ^ point`. -/
def shortest (bits : Nat) : List Char × Int :=
  let iv := f.interval bits
  let (hn, hd) := ratioOf (iv.mant + iv.plus) iv.exp
  let place := leadingPlace hn hd iv.inclusive
  let (d, lastPlace) := generate iv place 40 1
  let ds := decimalChars d
  (dropTrailingZeros ds, lastPlace + ds.length)

/-- Positional layout of `0.ds * 10 ^ point` with at least one fractional digit. -/
def positional (ds : List Char) (point : Int) : String :=
  if point ≤ 0 then
    String.ofList (['0', '.'] ++ List.replicate (-point).toNat '0' ++ ds)
  else if point.toNat < ds.length then
    String.ofList (ds.take point.toNat ++ ['.'] ++ ds.drop point.toNat)
  else
    String.ofList (ds ++ List.replicate (point.toNat - ds.length) '0' ++ ['.', '0'])

/-- Exponent layout of `0.ds * 10 ^ point`: one digit, the others after a point if any,
then `e` and the exponent. -/
def scientific (ds : List Char) (point : Int) : String :=
  let mantissa := match ds with
    | [] => ['0']
    | [d] => [d]
    | d :: rest => d :: '.' :: rest
  String.ofList mantissa ++ "e" ++ toString (point - 1)

/-- The text of a pattern: shortest digits, positional for magnitudes in `[1e-4, 1e16)`
and for zero, exponent layout otherwise. -/
def render (bits : Nat) : String :=
  match f.decode bits with
  | .nan _ => "NaN"
  | .infinity s => if s then "-inf" else "inf"
  | .finite s m _ =>
    let sign := if s then "-" else ""
    if m = 0 then sign ++ "0.0"
    else
      let (ds, point) := f.shortest bits
      let mag := f.magnitude bits
      if mag < f.roundRatio 1 10000 ∨ f.roundRatio (Nat.pow 10 16) 1 ≤ mag then
        sign ++ scientific ds point
      else sign ++ positional ds point

end BinaryFormat

end LineCommands
