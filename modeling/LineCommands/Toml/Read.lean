import LineCommands.Toml.Value
import LineCommands.Bytes
import LineCommands.Number.Decimal
/-!
# Reading TOML

`Toml.parse?` reads a TOML 1.0 document: lines of key/value pairs, `[table]` and
`[[array of tables]]` headers, comments and blank lines, each followed by a line end or
the end of the input.

* Keys are bare (`A-Z a-z 0-9 _ -`) or quoted, joined by dots.
* Strings are basic (`"..."`, with the escapes `\b \t \n \f \r \" \\ \uXXXX \UXXXXXXXX`),
  literal (`'...'`), or the multi-line forms of both, where a line end right after the
  opening quotes is dropped, a line end inside is one line feed, and, in the basic form,
  a backslash at the end of a line drops the blanks and line ends after it. No control character other than tab appears
  outside a line end.
* Integers are decimal (no leading zero, an optional sign), or `0x`, `0o`, `0b` numbers;
  underscores stand only between digits; the value fits in 64 bits. Floats have a
  fraction, an exponent or both, or are `inf` or `nan` with an optional sign.
* Dates, times and date-times follow RFC 3339, with `T`, `t` or a space between date
  and time, and are checked for valid fields.
* Arrays may span lines, hold comments and end with a comma; inline tables stay on one
  line and do not.

Every reader takes a fuel bound, the input's length or more, and returns its result with
the rest of the input.
-/

namespace LineCommands.Toml

/-- Whether a character is a blank (space or tab). -/
def isBlank (c : Char) : Bool := c = ' ' || c = '\t'

/-- Drops leading blanks. -/
def skipBlanks (cs : List Char) : List Char := cs.dropWhile isBlank

/-- Whether a character may appear in a comment. -/
def commentChar (c : Char) : Bool := c = '\t' || (0x20 ≤ c.toNat && c.toNat != 0x7F)

/-- Skips blanks, comments and line ends (`inComment` while inside a comment). A
character a comment may not hold fails. -/
def skipFiller (inComment : Bool) : List Char → Option (List Char)
  | [] => some []
  | '\n' :: r => skipFiller false r
  | '\r' :: '\n' :: r => skipFiller false r
  | c :: r =>
    if inComment then (if commentChar c then skipFiller true r else none)
    else if isBlank c then skipFiller false r
    else if c = '#' then skipFiller true r
    else some (c :: r)

/-- After a statement: blanks, an optional comment, then a line end or the end. -/
def lineEnd : Bool → List Char → Option (List Char)
  | _, [] => some []
  | _, '\n' :: r => some r
  | _, '\r' :: '\n' :: r => some r
  | inComment, c :: r =>
    if inComment then (if commentChar c then lineEnd true r else none)
    else if isBlank c then lineEnd false r
    else if c = '#' then lineEnd true r
    else none

/-! ## Strings -/

/-- A character a string holds as it is, other than the quotes and the backslash. -/
def plainChar (c : Char) : Bool := c = '\t' || (0x20 ≤ c.toNat && c.toNat != 0x7F)

/-- The value of hexadecimal digits. -/
def hexValue? (ds : List Char) : Option Nat :=
  ds.foldlM (fun acc c => (hexDigitValue? c).map (acc * 16 + ·)) 0

/-- The character of a Unicode scalar value. -/
def scalar? (n : Nat) : Option Char :=
  if n < 0xD800 ∨ (0xDFFF < n ∧ n ≤ 0x10FFFF) then some (Char.ofNat n) else none

/-- An escape sequence after its backslash: the character and the rest. -/
def escape : List Char → Option (Char × List Char)
  | 'b' :: r => some ('\x08', r)
  | 't' :: r => some ('\t', r)
  | 'n' :: r => some ('\n', r)
  | 'f' :: r => some ('\x0c', r)
  | 'r' :: r => some ('\r', r)
  | '"' :: r => some ('"', r)
  | '\\' :: r => some ('\\', r)
  | 'u' :: a :: b :: c :: d :: r => do
    let ch ← (hexValue? [a, b, c, d]).bind scalar?
    pure (ch, r)
  | 'U' :: a :: b :: c :: d :: e :: f :: g :: h :: r => do
    let ch ← (hexValue? [a, b, c, d, e, f, g, h]).bind scalar?
    pure (ch, r)
  | _ => none

/-- Drops blanks and line ends (a line feed, or a carriage return before one) after a
line-ending backslash. -/
def dropFold : List Char → List Char
  | ' ' :: r | '\t' :: r | '\n' :: r | '\r' :: '\n' :: r => dropFold r
  | r => r

/-- Whether the input starts with a line end. -/
def startsLineEnd : List Char → Bool
  | '\n' :: _ | '\r' :: '\n' :: _ => true
  | _ => false

/-- The body of a string after its opening quote(s); `acc` holds the characters so far,
last first. `quote` is the quote character, `escapes` tells basic from literal strings
and `multi` multi-line from single-line ones. -/
def stringBody (quote : Char) (escapes multi : Bool) : Nat → List Char → List Char →
    Option (String × List Char)
  | 0, _, _ => none
  | fuel + 1, acc, cs =>
    let done := fun (extra : Nat) (r : List Char) =>
      some (String.ofList (acc.reverse ++ List.replicate extra quote), r)
    match cs with
    | [] => none
    | c :: r =>
      if c = quote then
        if !multi then done 0 r
        else
          match r with
          | q2 :: q3 :: r3 =>
            if q2 = quote ∧ q3 = quote then
              let extra := (r3.takeWhile (· = quote)).length
              if 2 < extra then none else done extra (r3.drop extra)
            else stringBody quote escapes multi fuel (c :: acc) r
          | _ => stringBody quote escapes multi fuel (c :: acc) r
      else if c = '\\' ∧ escapes then
        if multi && startsLineEnd (skipBlanks r) then
          stringBody quote escapes multi fuel acc (dropFold r)
        else
          match escape r with
          | some (e, r') => stringBody quote escapes multi fuel (e :: acc) r'
          | none => none
      else if multi ∧ c = '\n' then stringBody quote escapes multi fuel (c :: acc) r
      else if multi ∧ c = '\r' then
        match r with
        | '\n' :: r' => stringBody quote escapes multi fuel ('\n' :: acc) r'
        | _ => none
      else if plainChar c then stringBody quote escapes multi fuel (c :: acc) r
      else none

/-- A string of any of the four kinds, starting at its first quote. -/
def string? (fuel : Nat) : List Char → Option (String × List Char)
  | '"' :: '"' :: '"' :: r => stringBody '"' true true fuel [] (dropLineEnd r)
  | '"' :: r => stringBody '"' true false fuel [] r
  | '\'' :: '\'' :: '\'' :: r => stringBody '\'' false true fuel [] (dropLineEnd r)
  | '\'' :: r => stringBody '\'' false false fuel [] r
  | _ => none
where
  /-- Drops one line end right after the opening quotes. -/
  dropLineEnd : List Char → List Char
    | '\n' :: r => r
    | '\r' :: '\n' :: r => r
    | r => r

/-! ## Keys -/

/-- A character of a bare key. -/
def bareKeyChar (c : Char) : Bool := c.isAlphanum || c = '_' || c = '-'

/-- One key: bare, or a single-line string. -/
def simpleKey (fuel : Nat) (cs : List Char) : Option (String × List Char) :=
  match cs with
  | '"' :: '"' :: '"' :: _ => none
  | '\'' :: '\'' :: '\'' :: _ => none
  | '"' :: _ | '\'' :: _ => string? fuel cs
  | _ =>
    let (k, r) := cs.span bareKeyChar
    if k.isEmpty then none else some (String.ofList k, r)

/-- The parts of a dotted key after its first part. -/
def keyParts (fuel : Nat) : Nat → List Char → Option (List String × List Char)
  | 0, _ => none
  | n + 1, cs =>
    match skipBlanks cs with
    | '.' :: r => do
      let (k, r') ← simpleKey fuel (skipBlanks r)
      let (ks, r'') ← keyParts fuel n r'
      pure (k :: ks, r'')
    | _ => some ([], cs)

/-- The bound on nesting: a dotted key has fewer parts, and arrays and inline tables
nest fewer levels deep. -/
def nestingLimit : Nat := 80

/-- A dotted key: its parts in order, fewer than `nestingLimit`. -/
def key (fuel : Nat) (cs : List Char) : Option (List String × List Char) := do
  let (k, r) ← simpleKey fuel cs
  let (ks, r') ← keyParts fuel fuel r
  if nestingLimit ≤ ks.length + 1 then none else pure (k :: ks, r')

/-! ## Numbers, dates and times -/

/-- Whether digits in a class are joined by single underscores, with a digit at both
ends. -/
def underscored (isDigit : Char → Bool) (cs : List Char) : Bool :=
  let parts := cs.splitOn '_'
  parts.all fun p => !p.isEmpty && p.all isDigit

/-- The digits of an underscored digit string. -/
def digitsOf (cs : List Char) : List Char := cs.filter (· ≠ '_')

/-- Whether a character is a binary digit. -/
def isBinDigit (c : Char) : Bool := c = '0' || c = '1'

/-- Whether a character is an octal digit. -/
def isOctDigit (c : Char) : Bool := '0' ≤ c && c ≤ '7'

/-- Whether a character is a hexadecimal digit. -/
def isHexDigit (c : Char) : Bool := (hexDigitValue? c).isSome

/-- The value of digits in a radix. -/
def radixValue (radix : Nat) (cs : List Char) : Nat :=
  cs.foldl (fun acc c => acc * radix + ((hexDigitValue? c).getD 0)) 0

/-- An unsigned decimal integer: `0`, or underscored digits not starting with `0`. -/
def decimalDigits? (cs : List Char) : Option Nat :=
  match cs with
  | ['0'] => some 0
  | c :: _ => if c ≠ '0' ∧ underscored Char.isDigit cs then some (radixValue 10 (digitsOf cs)) else none
  | [] => none

/-- An integer literal, within the 64-bit signed range. -/
def integer? (cs : List Char) : Option Int :=
  let inRange := fun (i : Int) => if -Int.pow 2 63 ≤ i ∧ i < Int.pow 2 63 then some i else none
  match cs with
  | '0' :: 'x' :: r => if underscored isHexDigit r then inRange (radixValue 16 (digitsOf r)) else none
  | '0' :: 'o' :: r => if underscored isOctDigit r then inRange (radixValue 8 (digitsOf r)) else none
  | '0' :: 'b' :: r => if underscored isBinDigit r then inRange (radixValue 2 (digitsOf r)) else none
  | '+' :: r => (decimalDigits? r).bind fun n => inRange n
  | '-' :: r => (decimalDigits? r).bind fun n => inRange (-(n : Int))
  | r => (decimalDigits? r).bind fun n => inRange n

/-- The parts of a float literal without its sign: the integer digits, the fraction
digits and the exponent, or none for `inf` and `nan`. -/
structure FloatParts where
  digits : List Char
  fraction : List Char
  exponent : Int

/-- Reads a float literal: an integer part, then a fraction, an exponent or both; or an
optionally signed `inf` or `nan`. The result tells the sign, and the parts unless the
literal is `inf` or `nan`. -/
def floatLiteral? (cs : List Char) : Option (Bool × Option FloatParts) :=
  let (negative, unsigned) := match cs with
    | '+' :: r => (false, r)
    | '-' :: r => (true, r)
    | r => (false, r)
  if unsigned = ['i', 'n', 'f'] ∨ unsigned = ['n', 'a', 'n'] then some (negative, none)
  else
    let (mant, expPart) := unsigned.span fun c => c ≠ 'e' ∧ c ≠ 'E'
    let (intPart, fracPart) := mant.span (· ≠ '.')
    let fraction? : Option (List Char) := match fracPart with
      | [] => some []
      | '.' :: f => if underscored Char.isDigit f then some (digitsOf f) else none
      | _ => none
    let exponent? : Option Int := match expPart with
      | [] => some 0
      | _ :: '+' :: e => if underscored Char.isDigit e then some (radixValue 10 (digitsOf e)) else none
      | _ :: '-' :: e => if underscored Char.isDigit e then some (-(radixValue 10 (digitsOf e) : Int)) else none
      | _ :: e => if underscored Char.isDigit e then some (radixValue 10 (digitsOf e)) else none
    match decimalDigits? intPart, fraction?, exponent? with
    | some _, some fraction, some exponent =>
      if fracPart.isEmpty ∧ expPart.isEmpty then none
      else some (negative, some ⟨digitsOf intPart, fraction, exponent⟩)
    | _, _, _ => none

/-- Whether a float literal's value rounds to positive infinity in binary64; such a
literal is refused (a negative one that rounds to negative infinity is kept). -/
def FloatParts.overflows (negative : Bool) (f : FloatParts) : Bool :=
  let literal := FloatLiteral.number negative (radixValue 10 (f.digits ++ f.fraction))
    (f.exponent - f.fraction.length)
  !negative && BinaryFormat.double.isInfinite (literal.toBits .double)

/-- A number of exactly `n` decimal digits. -/
def fixedDigits (n : Nat) (cs : List Char) : Option Nat :=
  if cs.length = n ∧ cs.all Char.isDigit then some (radixValue 10 cs) else none

/-- Days in a month of a year. -/
def daysInMonth (year month : Nat) : Nat :=
  if month = 2 then (if year % 4 = 0 ∧ (year % 100 ≠ 0 ∨ year % 400 = 0) then 29 else 28)
  else if month = 4 ∨ month = 6 ∨ month = 9 ∨ month = 11 then 30 else 31

/-- Two digits, zero padded. -/
def twoDigits (n : Nat) : String := if n < 10 then "0" ++ toString n else toString n

/-- A full date `YYYY-MM-DD` with a valid month and day, written back the same way. -/
def date? (cs : List Char) : Option String :=
  match cs.splitOn '-' with
  | [y, m, d] =>
    match fixedDigits 4 y, fixedDigits 2 m, fixedDigits 2 d with
    | some yv, some mv, some dv =>
      if 1 ≤ mv ∧ mv ≤ 12 ∧ 1 ≤ dv ∧ dv ≤ daysInMonth yv mv then
        some (String.ofList y ++ "-" ++ String.ofList m ++ "-" ++ String.ofList d)
      else none
    | _, _, _ => none
  | _ => none

/-- A time `HH:MM:SS` with an optional fraction of a second, written with the fraction cut
to nine digits and without trailing zeros (none at all when it is zero). -/
def time? (cs : List Char) : Option String :=
  let (hms, frac) := cs.span (· ≠ '.')
  let fraction? : Option String := match frac with
    | [] => some ""
    | _ :: f =>
      if !f.isEmpty && f.all Char.isDigit then
        let kept := (f.take 9).reverse.dropWhile (· = '0') |>.reverse
        some (if kept.isEmpty then "" else "." ++ String.ofList kept)
      else none
  match hms.splitOn ':', fraction? with
  | [h, m, sec], some fraction =>
    match fixedDigits 2 h, fixedDigits 2 m, fixedDigits 2 sec with
    | some hv, some mv, some sv =>
      if hv ≤ 23 ∧ mv ≤ 59 ∧ sv ≤ 60 then
        some (String.ofList h ++ ":" ++ String.ofList m ++ ":" ++ String.ofList sec ++ fraction)
      else none
    | _, _, _ => none
  | _, _ => none

/-- A time with an optional offset, `Z` (either case) or `±HH:MM`. The offset is written
`Z`, or with its sign, `+` for a zero offset. -/
def timeWithOffset? (cs : List Char) : Option String :=
  match cs.reverse with
  | 'Z' :: r | 'z' :: r => (time? r.reverse).map (· ++ "Z")
  | m2 :: m1 :: ':' :: h2 :: h1 :: sign :: r =>
    if sign = '+' ∨ sign = '-' then
      match fixedDigits 2 [h1, h2], fixedDigits 2 [m1, m2] with
      | some h, some m =>
        if h ≤ 23 ∧ m ≤ 59 then
          let shown := if sign = '-' ∧ h * 60 + m ≠ 0 then "-" else "+"
          (time? r.reverse).map (· ++ shown ++ twoDigits h ++ ":" ++ twoDigits m)
        else none
      | _, _ => none
    else time? cs
  | _ => time? cs

/-- A local time, a date, or a date and a time joined by `T`, `t` or a space, written
with `T` between date and time. -/
def dateTime? (cs : List Char) : Option String :=
  match time? cs with
  | some t => some t
  | none => do
    let date ← date? (cs.take 10)
    match cs.drop 10 with
    | [] => pure date
    | sep :: t =>
      if sep = 'T' ∨ sep = 't' ∨ sep = ' ' then
        let time ← timeWithOffset? t
        pure (date ++ "T" ++ time)
      else none

/-- A character that may continue a bare literal (number, date, time). -/
def bareChar (c : Char) : Bool :=
  c.isAlphanum || c = '+' || c = '-' || c = '_' || c = '.' || c = ':'

/-- A bare literal: a boolean, a number, a date or a time. A date followed by a space
and a time is one literal. A float whose value rounds to positive infinity is refused. -/
def bareValue? (cs : List Char) : Option (TomlValue × List Char) :=
  let (tok, rest) := cs.span bareChar
  let (tok, rest) := match rest with
    | ' ' :: r =>
      let (t2, r2) := r.span bareChar
      if (date? tok).isSome ∧ 2 < t2.length ∧ (time? (t2.take 8)).isSome then
        (tok ++ ' ' :: t2, r2)
      else (tok, rest)
    | _ => (tok, rest)
  if tok = "true".toList then some (.boolean true, rest)
  else if tok = "false".toList then some (.boolean false, rest)
  else match integer? tok with
    | some i => some (.integer i, rest)
    | none =>
      match floatLiteral? tok with
      | some (negative, parts) =>
        if (parts.map (·.overflows negative)).getD false then none else some (.float, rest)
      | none => (dateTime? tok).map fun text => (.datetime text, rest)

/-! ## Values -/

mutual

/-- One value, inside `depth` arrays and inline tables. -/
def value : Nat → Nat → List Char → Option (TomlValue × List Char)
  | 0, _, _ => none
  | fuel + 1, depth, cs =>
    match cs with
    | '"' :: _ | '\'' :: _ => (string? fuel cs).map fun (s, r) => (.string s, r)
    | '[' :: r =>
      if nestingLimit ≤ depth + 1 then none
      else do
        let r ← skipFiller false r
        match r with
        | ']' :: r' => pure (.array [], r')
        | _ => arrayItems fuel (depth + 1) [] r
    | '{' :: r =>
      if nestingLimit ≤ depth + 1 then none
      else
        match skipBlanks r with
        | '}' :: r' => some (.table .inline [], r')
        | r' => inlineItems fuel (depth + 1) [] r'
    | _ => bareValue? cs

/-- Array items after `[`; `acc` holds the items so far, last first. -/
def arrayItems : Nat → Nat → List TomlValue → List Char → Option (TomlValue × List Char)
  | 0, _, _, _ => none
  | fuel + 1, depth, acc, cs => do
    let (v, r) ← value fuel depth cs
    let r ← skipFiller false r
    match r with
    | ']' :: r' => pure (.array (v :: acc).reverse, r')
    | ',' :: r' =>
      let r' ← skipFiller false r'
      match r' with
      | ']' :: r'' => pure (.array (v :: acc).reverse, r'')
      | _ => arrayItems fuel depth (v :: acc) r'
    | _ => none

/-- Inline table members after `{`; `acc` holds the table so far. -/
def inlineItems : Nat → Nat → TomlTable → List Char → Option (TomlValue × List Char)
  | 0, _, _, _ => none
  | fuel + 1, depth, acc, cs => do
    let (path, r) ← key fuel cs
    let r ← match skipBlanks r with
      | '=' :: r' => some (skipBlanks r')
      | _ => none
    let (v, r) ← value fuel depth r
    let acc ← match path.getLast?, acc.assign path.dropLast (path.getLast?.getD "") v with
      | some _, .ok t => some t
      | _, _ => none
    match skipBlanks r with
    | '}' :: r' => pure (.table .inline acc, r')
    | ',' :: r' => inlineItems fuel depth acc (skipBlanks r')
    | _ => none

end

/-! ## Documents -/

/-- The state of a document being read: the root table and the path of the table that
key/value lines go into. -/
structure Reader where
  root : TomlTable := []
  current : List String := []

/-- Stores a key/value line in the current table. -/
def Reader.assign (rd : Reader) (path : List String) (v : TomlValue) : Option Reader :=
  match path.getLast? with
  | none => none
  | some k =>
    match TomlTable.descend false .implicit (TomlTable.assign path.dropLast k v) rd.current rd.root with
    | .ok root => some { rd with root }
    | .error _ => none

/-- Reads the lines of a document. -/
def lines (fuel : Nat) : Nat → Reader → List Char → Option TomlTable
  | 0, _, _ => none
  | n + 1, rd, cs =>
    match skipBlanks cs with
    | [] => some rd.root
    | '\n' :: r => lines fuel n rd r
    | '\r' :: '\n' :: r => lines fuel n rd r
    | '#' :: r => (lineEnd true r).bind (lines fuel n rd)
    | '[' :: '[' :: r => do
      let (path, r) ← key fuel (skipBlanks r)
      let r ← match skipBlanks r with
        | ']' :: ']' :: r' => some r'
        | _ => none
      let k ← path.getLast?
      let root ← (TomlTable.appendTable path.dropLast k rd.root).toOption
      let r ← lineEnd false r
      lines fuel n { root, current := path } r
    | '[' :: r => do
      let (path, r) ← key fuel (skipBlanks r)
      let r ← match skipBlanks r with
        | ']' :: r' => some r'
        | _ => none
      let k ← path.getLast?
      let root ← (TomlTable.defineTable path.dropLast k rd.root).toOption
      let r ← lineEnd false r
      lines fuel n { root, current := path } r
    | r => do
      let (path, r) ← key fuel r
      let r ← match skipBlanks r with
        | '=' :: r' => some (skipBlanks r')
        | _ => none
      let (v, r) ← value fuel 0 r
      let rd ← rd.assign path v
      let r ← lineEnd false r
      lines fuel n rd r

/-- Reads a TOML document into its root table; a byte order mark before it is
skipped. -/
def parse? (s : String) : Option TomlTable :=
  let cs := match s.toList with
    | '\uFEFF' :: rest => rest
    | all => all
  lines (2 * cs.length + 4) (cs.length + 2) {} cs

end LineCommands.Toml
