import LineCommands.Cursor.Basic
/-!
# Requests

A command body talks to its cursor by requests. A *typed read* asks for the next argument
in a shape: raw bytes, text (bytes decoded with replacement characters), the full rest of
the line as text, an integer of a given kind, a binary32 or binary64 float, or a flag. It
is a request for the next value of the shape's kind, then a view of that value in the
shape; a required read that finds nothing is `notEnoughArguments`. The other requests ask
for the next value of a kind as it is, for the next value of a named custom kind, or
check that nothing is left.
-/

namespace LineCommands

/-- The shape in which a typed read presents its value. -/
inductive Shape where
  | bytes
  | text
  | remainder
  | integer (k : ArgKind)
  | float32
  | float64
  | flag
  deriving DecidableEq, Repr

/-- A value as a typed read presents it. -/
inductive Presented where
  | bytes (b : Bytes)
  | text (s : String)
  | integer (i : Int)
  | float32 (bits : UInt32)
  | float64 (bits : UInt64)
  | flag (b : Bool)
  deriving DecidableEq, Repr

namespace Shape

/-- The kind a shape requests. -/
def kind : Shape → ArgKind
  | .bytes | .text => .text
  | .remainder => .full
  | .integer k => k
  | .float32 => .f32
  | .float64 => .f64
  | .flag => .bool

/-- The view of a value in a shape, when the value has the shape's kind. -/
def present : Shape → ArgValue → Option Presented
  | .bytes, .text b => some (.bytes b)
  | .text, .text b => some (.text (Utf8.lossy b))
  | .remainder, .full b => some (.text (Utf8.lossy b))
  | .integer k, v => if v.kind = k then v.toInt?.map .integer else none
  | .float32, .f32 b => some (.float32 b)
  | .float64, .f64 b => some (.float64 b)
  | .flag, .bool b => some (.flag b)
  | _, _ => none

end Shape

/-- A request a command body makes of its cursor. -/
inductive Request where
  /-- A typed read; `required` asks for an error rather than nothing. -/
  | read (shape : Shape) (required : Bool)
  /-- The next value of a kind as it is. -/
  | value (kind : ArgKind) (required : Bool)
  /-- The next value of a named custom kind. -/
  | custom (name : String) (required : Bool)
  /-- A check that nothing is left. -/
  | finish
  deriving DecidableEq, Repr

/-- What a request that succeeded gives back. -/
inductive Answer where
  /-- Nothing: an optional request found no argument, or `finish` succeeded. -/
  | nothing
  | presented (p : Presented)
  | value (v : ArgValue)
  | customText (s : String)
  deriving DecidableEq, Repr

namespace Cursor

/-- A typed read. -/
def read (c : Cursor) (shape : Shape) (required : Bool) :
    Cursor × Except CommandError (Option Presented) :=
  let (c', r) := c.nextValue shape.kind required
  match r with
  | .error e => (c', .error e)
  | .ok none => (c', if required then .error .notEnoughArguments else .ok none)
  | .ok (some v) =>
    match shape.present v with
    | some p => (c', .ok (some p))
    | none => (c', .error (.invalidArgument shape.kind ""))

/-- Answers a request. -/
def answer (c : Cursor) : Request → Cursor × Except CommandError Answer
  | .read shape required =>
    let (c', r) := c.read shape required
    (c', r.map fun o => (o.map Answer.presented).getD .nothing)
  | .value k required =>
    let (c', r) := c.nextValue k required
    (c', r.map fun o => (o.map Answer.value).getD .nothing)
  | .custom name required =>
    let (c', r) := c.nextCustom name required
    (c', r.map fun o => (o.map Answer.customText).getD .nothing)
  | .finish => (c, c.finish.map fun _ => .nothing)

end Cursor

end LineCommands
