import LineCommands.Json.Read
import LineCommands.Cursor.Queue
/-!
# Structured invocations

A front end that already holds typed values sends a command as a JSON record instead of a
line: `{"command": "sum", "args": [{"i32": 3}, {"i32": 4}]}`. The record is read the way
a typed record reader reads it:

* the record is an object with the fields `command` (a string) and `args` (an array,
  empty when absent), other fields ignored and neither field given twice; or an array
  holding the command and optionally the arguments;
* each argument is an object with exactly one member, named by the kind's tag, whose value
  is a string for `text` and `full`, a boolean for `bool`, a number for the numeric kinds,
  and for `custom` a record of `type_name` and `value`;
* an integer kind takes an integer number within its range, never a float; a float kind
  takes any number, an integer rounded once into the format and a float rounded from
  binary64.

The values land in a `ValueQueue`, so the command reads them as it would read a line.
-/

namespace LineCommands

/-- A command name and its typed arguments. -/
structure Invocation where
  command : String
  args : List ArgValue := []
  deriving DecidableEq, Repr

namespace Invocation

/-- The value of a number read as a kind. -/
def numberAs (k : ArgKind) : JsonNumber → Except String ArgValue
  | .unsigned n =>
    match k with
    | .f32 => .ok (.f32 (UInt32.ofNat (BinaryFormat.single.roundRatio n 1)))
    | .f64 => .ok (.f64 (UInt64.ofNat (BinaryFormat.double.roundRatio n 1)))
    | _ => match ArgValue.ofInt? k n with
      | some v => .ok v
      | none => .error "invalid value: integer out of range"
  | .negative i =>
    match k with
    | .f32 => .ok (.f32 (UInt32.ofNat (BinaryFormat.single.ofInt i)))
    | .f64 => .ok (.f64 (UInt64.ofNat (BinaryFormat.double.ofInt i)))
    | _ => match ArgValue.ofInt? k i with
      | some v => .ok v
      | none => .error "invalid value: integer out of range"
  | .float bits =>
    match k with
    | .f32 => .ok (.f32 (UInt32.ofNat (BinaryFormat.convert .double .single bits)))
    | .f64 => .ok (.f64 (UInt64.ofNat bits))
    | _ => .error "invalid type: floating point, expected integer"

/-- The members of a record that are named, each at most once. -/
def uniqueField (ms : List (String × Json)) (name : String) : Except String (Option Json) :=
  match ms.filter (·.1 == name) with
  | [] => .ok none
  | [(_, v)] => .ok (some v)
  | _ => .error ("duplicate field " ++ name)

/-- A string field that must be present. -/
def stringField (ms : List (String × Json)) (name : String) : Except String String := do
  match ← uniqueField ms name with
  | some (.string s) => .ok s
  | some _ => .error ("invalid type for " ++ name ++ ", expected a string")
  | none => .error ("missing field " ++ name)

/-- The custom value record: `type_name` and `value`. -/
def customOfJson : Json → Except String ArgValue
  | .object ms => do
    let t ← stringField ms "type_name"
    let v ← stringField ms "value"
    .ok (.custom t v)
  | .array [.string t, .string v] => .ok (.custom t v)
  | _ => .error "invalid type, expected struct variant custom"

/-- One argument: an object with one member named by a kind's tag. -/
def argOfJson : Json → Except String ArgValue
  | .object [(tag, payload)] =>
    match ArgKind.ofTag? tag, payload with
    | some .text, .string s => .ok (.text (Bytes.ofString s))
    | some .full, .string s => .ok (.full (Bytes.ofString s))
    | some .bool, .bool b => .ok (.bool b)
    | some .custom, p => customOfJson p
    | some k, .number n => if k.isInteger || k = .f32 || k = .f64 then numberAs k n
        else .error ("invalid type for variant " ++ tag)
    | some _, _ => .error ("invalid type for variant " ++ tag)
    | none, _ => .error ("unknown variant " ++ tag)
  | _ => .error "expected an object with one member"

/-- The arguments of an invocation. -/
def argsOfJson : Json → Except String (List ArgValue)
  | .array items => items.mapM argOfJson
  | _ => .error "invalid type for args, expected a sequence"

/-- Reads an invocation record. -/
def ofJson : Json → Except String Invocation
  | .object ms => do
    let command ← stringField ms "command"
    let args ← match ← uniqueField ms "args" with
      | some a => argsOfJson a
      | none => .ok []
    .ok { command, args }
  | .array [.string c] => .ok { command := c }
  | .array [.string c, a] => do .ok { command := c, args := ← argsOfJson a }
  | _ => .error "invalid type, expected struct Invocation"

/-- Reads an invocation from JSON text. -/
def parse (s : String) : Except String Invocation :=
  match Json.parse? s with
  | some j => ofJson j
  | none => .error "invalid JSON"

/-- The cursor the command reads from. -/
def cursor (inv : Invocation) : ValueQueue := ValueQueue.ofList inv.args

end Invocation

end LineCommands
