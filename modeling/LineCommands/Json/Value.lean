import LineCommands.Number.Binary
/-!
# JSON values

A JSON document as the structured front end reads it. Objects keep their members in input
order, duplicates included, so that a reader of records can refuse a field given twice.
A record reader skips the fields it does not know by their syntax alone, so text that is
well formed but has no value (an unpaired surrogate escape, a number beyond the binary64
range) is kept as `Json.unreadable`: harmless where it is skipped, an error where it is
read.

Numbers are classified the way they are written: a non-negative integer that fits in 64
bits, a negative integer that fits in 64 bits, or otherwise a binary64 float. The float of
a number is assembled from its decimal significand (at most the first nineteen or twenty
digits, as many as fit in 64 bits) and its decimal exponent by one rounded multiplication
or division by a power of ten (`Json.assembleFloat`); a positive exponent that overflows
is an error, not an infinity.
-/

namespace LineCommands

/-- A number as written in a JSON document. -/
inductive JsonNumber where
  /-- A non-negative integer below `2 ^ 64`. -/
  | unsigned (n : Nat)
  /-- A negative integer not below `-2 ^ 63`. -/
  | negative (i : Int)
  /-- Any other number, as a binary64 pattern. -/
  | float (bits : Nat)
  deriving DecidableEq, Repr

/-- A JSON value. -/
inductive Json where
  | null
  | bool (b : Bool)
  | number (n : JsonNumber)
  | string (s : String)
  | array (items : List Json)
  | object (members : List (String × Json))
  /-- Well-formed text that has no value: a string with an unpaired surrogate escape, a
  number beyond the binary64 range, or an object with such a string as a key. A reader
  that skips the value accepts it; a reader that needs it fails. -/
  | unreadable
  deriving Repr, Inhabited

namespace Json

/-- The value of the first member of an object with the given name. -/
def field? (j : Json) (name : String) : Option Json :=
  match j with
  | .object ms => (ms.find? (·.1 == name)).map (·.2)
  | _ => none

/-- The text of a string value. -/
def asString? : Json → Option String
  | .string s => some s
  | _ => none

/-- The flag of a boolean value. -/
def asBool? : Json → Option Bool
  | .bool b => some b
  | _ => none

/-- The integer of an integer number. -/
def asInt? : Json → Option Int
  | .number (.unsigned n) => some n
  | .number (.negative i) => some i
  | _ => none

/-- The items of an array. -/
def asArray? : Json → Option (List Json)
  | .array xs => some xs
  | _ => none

/-- The members of an object. -/
def asObject? : Json → Option (List (String × Json))
  | .object ms => some ms
  | _ => none

/-- Powers of ten from `10 ^ 0` to `10 ^ 308`, each rounded to binary64. -/
def powerOfTen (k : Nat) : Nat := BinaryFormat.double.roundRatio (Nat.pow 10 k) 1

/-- Scales a binary64 pattern by `10 ^ exponent`: one rounded multiplication when the
exponent is at most 308, one rounded division when it is at least -308, and otherwise
divisions by `1e308` until it is, stopping early at zero. A multiplication that ends at
infinity is an error. -/
def scaleByPowerOfTen : Nat → Nat → Int → Option Nat
  | 0, f, _ => some f
  | fuel + 1, f, e =>
    let d := BinaryFormat.double
    if e.natAbs ≤ 308 then
      if 0 ≤ e then
        match d.mulRound f (powerOfTen e.toNat) with
        | some r => if d.isInfinite r then none else some r
        | none => none
      else d.divRound f (powerOfTen e.natAbs)
    else if d.isZero f then some f
    else if 0 ≤ e then none
    else
      match d.divRound f (powerOfTen 308) with
      | some r => scaleByPowerOfTen fuel r (e + 308)
      | none => none

/-- The binary64 pattern of `significand * 10 ^ exponent`, negated unless `positive`: the
significand is rounded first, then scaled. -/
def assembleFloat (positive : Bool) (significand : Nat) (exponent : Int) : Option Nat :=
  let d := BinaryFormat.double
  let f := d.roundRatio significand 1
  (scaleByPowerOfTen (exponent.natAbs / 308 + 2) f exponent).map fun r =>
    if positive then r else d.withSign true (d.magnitude r)

end Json

end LineCommands
