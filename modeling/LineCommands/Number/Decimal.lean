import LineCommands.Number.Binary
/-!
# Decimal float literals

A float literal is an optional sign followed either by `inf`, `infinity` or `nan` in any
mix of case, or by a decimal number: digits with an optional point and more digits, at
least one digit in all (`1.`, `.5` and `007` are numbers, `.` is not), then optionally
`e` or `E`, an optional sign and at least one digit. Nothing may follow.

The value of a number is its digits as one integer times ten to the exponent less the
count of digits after the point; the exponent's digits stop counting once it passes
`65535`, which changes no result. It is rounded once, to the nearest pattern of the
format, a tie going to the even significand.
-/

namespace LineCommands

/-- A float literal as read: an infinity, a NaN, or `digits * 10 ^ exponent`, each with
its sign. -/
inductive FloatLiteral where
  | infinity (negative : Bool)
  | nan (negative : Bool)
  | number (negative : Bool) (digits : Nat) (exponent : Int)
  deriving DecidableEq, Repr

namespace FloatLiteral

/-- Folds the leading digits into `acc`; returns the value, the count of digits and the
rest. -/
def leadingDigits (acc count : Nat) : List Char → Nat × Nat × List Char
  | c :: cs => if c.isDigit then leadingDigits (acc * 10 + (c.toNat - 48)) (count + 1) cs
      else (acc, count, c :: cs)
  | [] => (acc, count, [])

/-- Folds exponent digits, no longer growing once the value passes `65535`. -/
def exponentDigits (acc : Nat) : List Char → Nat × List Char
  | c :: cs => if c.isDigit then
        exponentDigits (if acc < 65536 then acc * 10 + (c.toNat - 48) else acc) cs
      else (acc, c :: cs)
  | [] => (acc, [])

/-- Reads the exponent part after `e`: an optional sign and at least one digit. -/
def exponentPart (cs : List Char) : Option (Int × List Char) :=
  let (neg, rest) := match cs with
    | '-' :: r => (true, r)
    | '+' :: r => (false, r)
    | r => (false, r)
  match rest with
  | c :: _ =>
    if c.isDigit then
      let (e, after) := exponentDigits 0 rest
      some (if neg then -(e : Int) else (e : Int), after)
    else none
  | [] => none

/-- Reads an unsigned decimal number that takes the whole input. -/
def number? (negative : Bool) (cs : List Char) : Option FloatLiteral :=
  let (intPart, intCount, rest) := leadingDigits 0 0 cs
  let (all, fracCount, rest) := match rest with
    | '.' :: r =>
      let (v, n, r') := leadingDigits intPart 0 r
      (v, n, r')
    | r => (intPart, 0, r)
  if intCount + fracCount = 0 then none
  else
    let expRead : Option (Int × List Char) := match rest with
      | 'e' :: r => exponentPart r
      | 'E' :: r => exponentPart r
      | r => some (0, r)
    match expRead with
    | some (e, []) => some (.number negative all (e - fracCount))
    | _ => none

/-- Reads `inf`, `infinity` or `nan` in any mix of case. -/
def special? (negative : Bool) (cs : List Char) : Option FloatLiteral :=
  let lower := cs.map Char.toLower
  if lower = ['i', 'n', 'f'] ∨ lower = "infinity".toList then some (.infinity negative)
  else if lower = ['n', 'a', 'n'] then some (.nan negative)
  else none

/-- Reads a float literal. -/
def read? (cs : List Char) : Option FloatLiteral :=
  let (negative, rest) := match cs with
    | '-' :: r => (true, r)
    | '+' :: r => (false, r)
    | r => (false, r)
  if cs = [] ∨ rest = [] then none
  else (number? negative rest).orElse fun _ => special? negative rest

/-- Count of decimal digits of a positive number. -/
def digitCount (n : Nat) : Nat := (Nat.toDigits 10 n).length

/-- The pattern of a literal in format `f`. A number whose value is at least `10 ^ 400`
is infinite and one below `10 ^ -400` is zero in both formats, so only numbers between
are rounded exactly. -/
def toBits (f : BinaryFormat) : FloatLiteral → Nat
  | .infinity neg => f.withSign neg f.infinityBits
  | .nan neg => f.withSign neg f.nanBits
  | .number neg digits e =>
    if digits = 0 then f.withSign neg 0
    else if 400 < e + digitCount digits then f.withSign neg f.infinityBits
    else if e + digitCount digits < -400 then f.withSign neg 0
    else if 0 ≤ e then f.withSign neg (f.roundRatio (digits * Nat.pow 10 e.toNat) 1)
    else f.withSign neg (f.roundRatio digits (Nat.pow 10 (-e).toNat))

end FloatLiteral

end LineCommands
