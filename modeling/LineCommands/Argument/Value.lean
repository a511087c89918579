import LineCommands.Argument.Kind
import LineCommands.Bytes
/-!
# Argument values

An argument value is one of the fourteen kinds with its payload: bytes for raw text and
for the full rest of a line, a fixed-width integer, the bit pattern of a binary32 or
binary64 float, a flag, or a custom kind's name with the text its parser produced.
`ArgValue.kind` is the kind a value carries.
-/

namespace LineCommands

/-- A typed argument value. -/
inductive ArgValue where
  | text (bytes : Bytes)
  | i8 (v : Int8)
  | i16 (v : Int16)
  | i32 (v : Int32)
  | i64 (v : Int64)
  | u8 (v : UInt8)
  | u16 (v : UInt16)
  | u32 (v : UInt32)
  | u64 (v : UInt64)
  | f32 (bits : UInt32)
  | f64 (bits : UInt64)
  | bool (b : Bool)
  | full (bytes : Bytes)
  | custom (typeName value : String)
  deriving DecidableEq, Repr, Inhabited

namespace ArgValue

/-- The kind a value carries. -/
def kind : ArgValue → ArgKind
  | .text _ => .text
  | .i8 _ => .i8
  | .i16 _ => .i16
  | .i32 _ => .i32
  | .i64 _ => .i64
  | .u8 _ => .u8
  | .u16 _ => .u16
  | .u32 _ => .u32
  | .u64 _ => .u64
  | .f32 _ => .f32
  | .f64 _ => .f64
  | .bool _ => .bool
  | .full _ => .full
  | .custom _ _ => .custom

/-- The integer of an integer kind when it lies in the kind's range. -/
def ofInt? (k : ArgKind) (i : Int) : Option ArgValue :=
  if k.lowerBound ≤ i ∧ i ≤ k.upperBound then
    match k with
    | .i8 => some (.i8 (Int8.ofInt i))
    | .i16 => some (.i16 (Int16.ofInt i))
    | .i32 => some (.i32 (Int32.ofInt i))
    | .i64 => some (.i64 (Int64.ofInt i))
    | .u8 => some (.u8 (UInt8.ofNat i.toNat))
    | .u16 => some (.u16 (UInt16.ofNat i.toNat))
    | .u32 => some (.u32 (UInt32.ofNat i.toNat))
    | .u64 => some (.u64 (UInt64.ofNat i.toNat))
    | _ => none
  else none

/-- The integer a value of an integer kind holds. -/
def toInt? : ArgValue → Option Int
  | .i8 v => some v.toInt
  | .i16 v => some v.toInt
  | .i32 v => some v.toInt
  | .i64 v => some v.toInt
  | .u8 v => some v.toNat
  | .u16 v => some v.toNat
  | .u32 v => some v.toNat
  | .u64 v => some v.toNat
  | _ => none

end ArgValue

end LineCommands
