import LineCommands.Argument.Value
import LineCommands.Error
/-!
# The value queue

A `ValueQueue` hands out values that were typed before. It keeps one queue per kind, each
holding payloads of its own type, and a queue of kinds, `order`, that records the kind of
every value in the order the values were pushed. Pushing a value appends its payload to
the queue of its kind and its kind to `order`.

A request takes the front value when `order` starts with the requested kind (for a custom
kind, the front custom value must also carry the requested name), and otherwise finds
nothing and changes nothing. Taking a value removes the front of its kind's queue and the
front of `order`. Taking a value of the full kind closes the queue: every later request
fails with `argumentsAfterRemainder`, which is checked first.

The raw position of a queue is its count of values handed out.
-/

namespace LineCommands

/-- A queue of typed values read as arguments: a queue of payloads per kind and the kinds
in push order. -/
structure ValueQueue where
  order : List ArgKind := []
  text : List Bytes := []
  i8s : List Int8 := []
  i16s : List Int16 := []
  i32s : List Int32 := []
  i64s : List Int64 := []
  u8s : List UInt8 := []
  u16s : List UInt16 := []
  u32s : List UInt32 := []
  u64s : List UInt64 := []
  f32s : List UInt32 := []
  f64s : List UInt64 := []
  bools : List Bool := []
  full : List Bytes := []
  custom : List (String × String) := []
  argPos : Nat := 0
  remainderTaken : Bool := false
  deriving DecidableEq, Repr

namespace ValueQueue

variable (q : ValueQueue)

/-- Appends a value's payload to the queue of its kind and its kind to `order`. Every way
of pushing (bytes, text, a number, a flag, the full rest, a custom value, or any value) is
this one operation on the value of that kind. -/
def push : ArgValue → ValueQueue
  | .text b => { q with order := q.order ++ [.text], text := q.text ++ [b] }
  | .i8 x => { q with order := q.order ++ [.i8], i8s := q.i8s ++ [x] }
  | .i16 x => { q with order := q.order ++ [.i16], i16s := q.i16s ++ [x] }
  | .i32 x => { q with order := q.order ++ [.i32], i32s := q.i32s ++ [x] }
  | .i64 x => { q with order := q.order ++ [.i64], i64s := q.i64s ++ [x] }
  | .u8 x => { q with order := q.order ++ [.u8], u8s := q.u8s ++ [x] }
  | .u16 x => { q with order := q.order ++ [.u16], u16s := q.u16s ++ [x] }
  | .u32 x => { q with order := q.order ++ [.u32], u32s := q.u32s ++ [x] }
  | .u64 x => { q with order := q.order ++ [.u64], u64s := q.u64s ++ [x] }
  | .f32 x => { q with order := q.order ++ [.f32], f32s := q.f32s ++ [x] }
  | .f64 x => { q with order := q.order ++ [.f64], f64s := q.f64s ++ [x] }
  | .bool x => { q with order := q.order ++ [.bool], bools := q.bools ++ [x] }
  | .full b => { q with order := q.order ++ [.full], full := q.full ++ [b] }
  | .custom n v => { q with order := q.order ++ [.custom], custom := q.custom ++ [(n, v)] }

/-- A queue holding the given values in order. -/
def ofList (vs : List ArgValue) : ValueQueue := vs.foldl push {}

/-- The queue of one kind, its payloads seen as values of that kind. -/
def lane : ArgKind → List ArgValue
  | .text => q.text.map .text
  | .i8 => q.i8s.map .i8
  | .i16 => q.i16s.map .i16
  | .i32 => q.i32s.map .i32
  | .i64 => q.i64s.map .i64
  | .u8 => q.u8s.map .u8
  | .u16 => q.u16s.map .u16
  | .u32 => q.u32s.map .u32
  | .u64 => q.u64s.map .u64
  | .f32 => q.f32s.map .f32
  | .f64 => q.f64s.map .f64
  | .bool => q.bools.map .bool
  | .full => q.full.map .full
  | .custom => q.custom.map fun e => .custom e.1 e.2

/-- Drops the front payload of the queue of one kind. -/
def dropFront : ArgKind → ValueQueue
  | .text => { q with text := q.text.tail }
  | .i8 => { q with i8s := q.i8s.tail }
  | .i16 => { q with i16s := q.i16s.tail }
  | .i32 => { q with i32s := q.i32s.tail }
  | .i64 => { q with i64s := q.i64s.tail }
  | .u8 => { q with u8s := q.u8s.tail }
  | .u16 => { q with u16s := q.u16s.tail }
  | .u32 => { q with u32s := q.u32s.tail }
  | .u64 => { q with u64s := q.u64s.tail }
  | .f32 => { q with f32s := q.f32s.tail }
  | .f64 => { q with f64s := q.f64s.tail }
  | .bool => { q with bools := q.bools.tail }
  | .full => { q with full := q.full.tail }
  | .custom => { q with custom := q.custom.tail }

/-- Takes the front value of the queue of a kind, then drops the front of `order`
whatever kind stands there; `none`, with nothing dropped, when that queue is empty. -/
def pop (k : ArgKind) : Option (ArgValue × ValueQueue) :=
  match q.lane k with
  | v :: _ => let q' := q.dropFront k; some (v, { q' with order := q'.order.tail })
  | [] => none

/-- Number of values still queued. -/
def remaining : Nat := q.order.length

/-- The kind of the front value. -/
def peek : Option ArgKind := q.order.head?

/-- Whether no argument is left. -/
def exhausted : Bool := q.remainderTaken || q.order.isEmpty

/-- The answer when the front value does not fit. -/
def missing {α : Type} (required : Bool) : Except CommandError (Option α) :=
  if required then .error .notEnoughArguments else .ok none

/-- Hands out the front value when it has the requested kind. -/
def nextValue (k : ArgKind) (required : Bool) :
    ValueQueue × Except CommandError (Option ArgValue) :=
  if q.remainderTaken then (q, .error .argumentsAfterRemainder)
  else if k = .custom then (q, .error (.unknownCustomType ""))
  else if q.peek ≠ some k then (q, missing required)
  else
    match q.pop k with
    | none => (q, missing required)
    | some (v, q') =>
      let q' := { q' with argPos := q'.argPos + 1 }
      (if k = .full then { q' with remainderTaken := true } else q', .ok (some v))

/-- Hands out the text of the front value when it belongs to the named custom kind. -/
def nextCustom (name : String) (required : Bool) :
    ValueQueue × Except CommandError (Option String) :=
  if q.remainderTaken then (q, .error .argumentsAfterRemainder)
  else if !(q.peek = some .custom && (q.custom.head?.map (·.1)) == some name) then
    (q, missing required)
  else
    match q.pop .custom with
    | some (.custom _ v, q') => ({ q' with argPos := q'.argPos + 1 }, .ok (some v))
    | _ => (q, missing required)

end ValueQueue

end LineCommands
