import LineCommands.NameMap
import LineCommands.Bytes
/-!
# Custom kinds

A custom kind is a name with a parser that turns the text of a token into a normalised
text, or refuses it with a reason. A `TypeTable` holds the custom kinds a cursor can read,
sorted by name; registering a taken name fails.

The stock parsers are the ones a registry can be given by name: `color` (`red`, `green`,
`blue` in upper case), `hex` (an unsigned 64-bit hexadecimal number, written back in
decimal), `upper` (ASCII upper case), `echo` (the text itself), `len` (the count of UTF-8
bytes, in decimal) and `reject` (refuses everything).
-/

namespace LineCommands

/-- A parser of a custom kind: the normalised text, or the reason for refusing. -/
abbrev ValueParser := String → Except String String

/-- The custom kinds known to a cursor, by name. -/
abbrev TypeTable := NameMap ValueParser

namespace TypeTable

/-- Adds a custom kind; `none` when the name is taken. -/
def register? (t : TypeTable) (name : String) (p : ValueParser) : Option TypeTable :=
  if t.contains name then none else some (t.insert name p)

/-- Removes a custom kind; `none` when there is none of that name. -/
def unregister? (t : TypeTable) (name : String) : Option TypeTable :=
  if t.contains name then some (t.erase name) else none

end TypeTable

/-- The stock parsers. -/
inductive StockParser where
  | color
  | hex
  | upper
  | echo
  | len
  | reject
  deriving DecidableEq, Repr

namespace StockParser

/-- The stock parser of a name. -/
def ofName? : String → Option StockParser
  | "color" => some .color
  | "hex" => some .hex
  | "upper" => some .upper
  | "echo" => some .echo
  | "len" => some .len
  | "reject" => some .reject
  | _ => none

/-- Reads hexadecimal digits into an unsigned 64-bit value, left to right. -/
def hexDigits (acc : Nat) : List Char → Option Nat
  | [] => some acc
  | c :: cs => do
    let d ← hexDigitValue? c
    let acc' := acc * 16 + d
    if acc' < Nat.pow 2 64 then hexDigits acc' cs else none

/-- An unsigned 64-bit hexadecimal number with an optional leading `+`. -/
def readHex (s : String) : Option Nat :=
  match s.toList with
  | [] | ['+'] | ['-'] => none
  | '+' :: rest => hexDigits 0 rest
  | cs => hexDigits 0 cs

/-- What a stock parser does. -/
def run : StockParser → ValueParser
  | .color => fun s =>
    if s = "red" then .ok "RED" else if s = "green" then .ok "GREEN"
    else if s = "blue" then .ok "BLUE" else .error "unknown color"
  | .hex => fun s =>
    match readHex s with
    | some n => .ok (toString n)
    | none => .error "not a hexadecimal number"
  | .upper => fun s => .ok (s.map Char.toUpper)
  | .echo => fun s => .ok s
  | .len => fun s => .ok (toString s.utf8ByteSize)
  | .reject => fun _ => .error "rejected"

end StockParser

end LineCommands
