/-!
# Argument kinds

Every argument a command declares, and every value a cursor hands out, has one of fourteen
kinds: raw text, eight integer widths, two float widths, a yes/no flag, the full rest of
the line, and a custom kind whose values a named parser produces.

Each kind has three spellings: the *display name* shown to users in usage lines and
messages, the *tag* used in structured data (`text`, `i8`, ..., `custom`), and the
*constructor name* used when a declaration is written out for debugging (`Text`, `I8`,
..., `Custom`).
-/

namespace LineCommands

/-- The kind of an argument or a value. -/
inductive ArgKind where
  | text
  | i8
  | i16
  | i32
  | i64
  | u8
  | u16
  | u32
  | u64
  | f32
  | f64
  | bool
  | full
  | custom
  deriving DecidableEq, Repr, Inhabited

namespace ArgKind

/-- Every kind, in declaration order. -/
def all : List ArgKind :=
  [.text, .i8, .i16, .i32, .i64, .u8, .u16, .u32, .u64, .f32, .f64, .bool, .full, .custom]

/-- The name shown to users. -/
def displayName : ArgKind → String
  | .text => "text"
  | .i8 => "tiny int"
  | .i16 => "short int"
  | .i32 => "int"
  | .i64 => "big int"
  | .u8 => "+tiny int"
  | .u16 => "+short int"
  | .u32 => "+int"
  | .u64 => "+big int"
  | .f32 => "float"
  | .f64 => "double float"
  | .bool => "yes/no"
  | .full => "full text..."
  | .custom => "[predefined]"

/-- The tag used in structured data. -/
def tag : ArgKind → String
  | .text => "text"
  | .i8 => "i8"
  | .i16 => "i16"
  | .i32 => "i32"
  | .i64 => "i64"
  | .u8 => "u8"
  | .u16 => "u16"
  | .u32 => "u32"
  | .u64 => "u64"
  | .f32 => "f32"
  | .f64 => "f64"
  | .bool => "bool"
  | .full => "full"
  | .custom => "custom"

/-- The constructor name used in debugging output. -/
def constructorName : ArgKind → String
  | .text => "Text"
  | .i8 => "I8"
  | .i16 => "I16"
  | .i32 => "I32"
  | .i64 => "I64"
  | .u8 => "U8"
  | .u16 => "U16"
  | .u32 => "U32"
  | .u64 => "U64"
  | .f32 => "F32"
  | .f64 => "F64"
  | .bool => "Bool"
  | .full => "Full"
  | .custom => "Custom"

/-- The kind with a given tag. -/
def ofTag? (s : String) : Option ArgKind := all.find? fun k => k.tag == s

/-- The eight integer kinds. -/
def isInteger : ArgKind → Bool
  | .i8 | .i16 | .i32 | .i64 | .u8 | .u16 | .u32 | .u64 => true
  | _ => false

/-- The least value of an integer kind (zero for the others). -/
def lowerBound : ArgKind → Int
  | .i8 => -Int.pow 2 7
  | .i16 => -Int.pow 2 15
  | .i32 => -Int.pow 2 31
  | .i64 => -Int.pow 2 63
  | _ => 0

/-- The greatest value of an integer kind (zero for the others). -/
def upperBound : ArgKind → Int
  | .i8 => Int.pow 2 7 - 1
  | .i16 => Int.pow 2 15 - 1
  | .i32 => Int.pow 2 31 - 1
  | .i64 => Int.pow 2 63 - 1
  | .u8 => Int.pow 2 8 - 1
  | .u16 => Int.pow 2 16 - 1
  | .u32 => Int.pow 2 32 - 1
  | .u64 => Int.pow 2 64 - 1
  | _ => 0

end ArgKind

end LineCommands
