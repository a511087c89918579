import LineCommands.Argument.Value
import LineCommands.Error
import LineCommands.Number.Integer
import LineCommands.Number.Decimal
import LineCommands.Text.Utf8
/-!
# Reading a token as a value

A token is a byte string. Read as raw text it is taken as it is. Read as any other kind
it must first be UTF-8 text, else it is an `invalidArgument` showing the text with
replacement characters. Then:

* an integer kind takes a decimal integer literal; a malformed literal is
  `invalidArgument`, a well-formed one outside the kind's range (at any magnitude) is
  `outOfRange`;
* a float kind takes a float literal rounded into its format; a result that is infinite
  although the literal names no infinity, or zero although a digit before the exponent
  is not zero, is `outOfRange`;
* a yes/no flag takes `yes on true y t` or `no off false n f` in any ASCII case.

The value in an error is the token's text.
-/

namespace LineCommands

namespace ArgValue

/-- Whether a literal, once its leading signs are removed, names an infinity. -/
def namesInfinity (s : String) : Bool :=
  let rest := (s.toList.dropWhile fun c => c = '+' ∨ c = '-').map Char.toLower
  rest = ['i', 'n', 'f'] ∨ rest = "infinity".toList

/-- Whether a digit other than zero stands before the first `e` or `E`. -/
def hasNonzeroDigit (s : String) : Bool :=
  (s.toList.takeWhile fun c => c ≠ 'e' ∧ c ≠ 'E').any fun c => '1' ≤ c ∧ c ≤ '9'

/-- Reads a float literal into format `f`, checking for overflow and underflow. -/
def readFloat (k : ArgKind) (f : BinaryFormat) (s : String) : Except CommandError Nat :=
  match FloatLiteral.read? s.toList with
  | none => .error (.invalidArgument k s)
  | some lit =>
    let bits := lit.toBits f
    if f.isInfinite bits ∧ !namesInfinity s then .error (.outOfRange k s)
    else if f.isZero bits ∧ hasNonzeroDigit s then .error (.outOfRange k s)
    else .ok bits

/-- The flag a word stands for. -/
def readFlag (s : String) : Option Bool :=
  match (s.toList.map Char.toLower) with
  | ['y', 'e', 's'] | ['o', 'n'] | ['t', 'r', 'u', 'e'] | ['y'] | ['t'] => some true
  | ['n', 'o'] | ['o', 'f', 'f'] | ['f', 'a', 'l', 's', 'e'] | ['n'] | ['f'] => some false
  | _ => none

/-- Reads the text of a token as a value of a kind other than raw text. -/
def readText (k : ArgKind) (s : String) : Except CommandError ArgValue :=
  match k with
  | .f32 => (fun b => ArgValue.f32 (UInt32.ofNat b)) <$> readFloat k .single s
  | .f64 => (fun b => ArgValue.f64 (UInt64.ofNat b)) <$> readFloat k .double s
  | .bool =>
    match readFlag s with
    | some b => .ok (.bool b)
    | none => .error (.invalidArgument .bool s)
  | .text => .ok (.text (Bytes.ofString s))
  | .full => .ok (.full (Bytes.ofString s))
  | .custom => .error (.unknownCustomType "")
  | _ =>
    match IntegerLiteral.read s.toList with
    | .error .malformed => .error (.invalidArgument k s)
    | .error .overflow => .error (.outOfRange k s)
    | .ok i =>
      match ofInt? k i with
      | some v => .ok v
      | none => .error (.outOfRange k s)

/-- Reads a token as a value of a kind. -/
def read (k : ArgKind) (token : Bytes) : Except CommandError ArgValue :=
  match k with
  | .text => .ok (.text token)
  | _ =>
    match Utf8.toText? token with
    | none => .error (.invalidArgument k (Utf8.lossy token))
    | some s => readText k s

end ArgValue

end LineCommands
