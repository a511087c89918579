import LineCommands.Json.Value
import LineCommands.Bytes
/-!
# Reading JSON

`Json.parse?` reads one JSON document: optional blanks (space, tab, line feed, carriage
return), one value, optional blanks, and nothing else. Containers nest to any depth.

* Strings hold no control character; the escapes are `\" \\ \/ \b \f \n \r \t` and `\u`
  with four hexadecimal digits. A string whose `\u` escapes do not pair every surrogate
  (a high one directly followed by a `\u` low one) is well formed but unreadable.
* A number is `-`? then `0` or a digit string not starting with `0`, then optionally `.`
  and at least one digit, then optionally `e` or `E`, a sign and at least one digit.
  Integers without point or exponent are kept exactly when they fit in 64 bits; every
  other number is assembled into a binary64 float from its first digits that fit in
  64 bits and its decimal exponent (`Json.assembleFloat`). The exponent saturates at the
  32-bit bounds; an exponent beyond them gives zero. A number whose value passes the
  binary64 range (an overflowing product, or a positive exponent beyond the 32-bit bound
  with a non-zero significand) is well formed but unreadable. `-0` is the float negative
  zero.

Unreadable strings and numbers, and objects with an unreadable key, read as
`Json.unreadable`.
-/

namespace LineCommands.Json

/-- Whether a character is a JSON blank. -/
def isBlank (c : Char) : Bool := c = ' ' || c = '\n' || c = '\t' || c = '\r'

/-- Drops leading blanks. -/
def skipBlanks (cs : List Char) : List Char := cs.dropWhile isBlank

/-- Four hexadecimal digits. -/
def hex4 : List Char → Option (Nat × List Char)
  | a :: b :: c :: d :: rest => do
    let va ← hexDigitValue? a
    let vb ← hexDigitValue? b
    let vc ← hexDigitValue? c
    let vd ← hexDigitValue? d
    pure (((va * 16 + vb) * 16 + vc) * 16 + vd, rest)
  | _ => none

/-- The character a one-letter escape stands for. -/
def escapeChar? : Char → Option Char
  | '"' => some '"'
  | '\\' => some '\\'
  | '/' => some '/'
  | 'b' => some '\x08'
  | 'f' => some '\x0c'
  | 'n' => some '\n'
  | 'r' => some '\r'
  | 't' => some '\t'
  | _ => none

/-- Reads a string body after its opening quote; `acc` holds the characters read so far,
last first, and `paired` whether every surrogate escape so far was paired. The result is
none for an unpaired one. -/
def stringBody : Nat → Bool → List Char → List Char → Option (Option String × List Char)
  | 0, _, _, _ => none
  | fuel + 1, paired, acc, cs =>
    match cs with
    | [] => none
    | '"' :: rest => some (if paired then some (String.ofList acc.reverse) else none, rest)
    | '\\' :: 'u' :: rest => do
      let (n, r) ← hex4 rest
      if 0xD800 ≤ n ∧ n ≤ 0xDBFF then
        match r with
        | '\\' :: 'u' :: r2 => do
          let (m, r3) ← hex4 r2
          if 0xDC00 ≤ m ∧ m ≤ 0xDFFF then
            stringBody fuel paired (Char.ofNat (0x10000 + (n - 0xD800) * 0x400 + (m - 0xDC00)) :: acc) r3
          else stringBody fuel false acc r3
        | _ => stringBody fuel false acc r
      else if 0xDC00 ≤ n ∧ n ≤ 0xDFFF then stringBody fuel false acc r
      else stringBody fuel paired (Char.ofNat n :: acc) r
    | '\\' :: e :: rest => do
      let c ← escapeChar? e
      stringBody fuel paired (c :: acc) rest
    | c :: rest => if c.toNat < 0x20 then none else stringBody fuel paired (c :: acc) rest

/-- Reads a string after its opening quote. -/
def string? (cs : List Char) : Option (Option String × List Char) :=
  stringBody (cs.length + 1) true [] cs

/-- The largest 32-bit signed integer. -/
def int32Max : Int := Int.pow 2 31 - 1

/-- Clamps to the 32-bit signed range. -/
def saturate (i : Int) : Int := max (-Int.pow 2 31) (min int32Max i)

/-- Whether `sig * 10 + d` leaves the 64-bit range. -/
def overflows64 (sig d : Nat) : Bool := Nat.pow 2 64 - 1 < sig * 10 + d

/-- The float of a significand and exponent, with the rest of the input; none inside
when it passes the binary64 range. -/
def floatNumber (positive : Bool) (sig : Nat) (e : Int) (rest : List Char) :
    Option (Option JsonNumber × List Char) :=
  some ((assembleFloat positive sig e).map .float, rest)

/-- Digits of an exponent, with the value so far; beyond the 32-bit range the
significand decides between zero and a value out of range. -/
def exponentDigits (positive : Bool) (sig : Nat) (start : Int) (positiveExp : Bool) :
    Nat → List Char → Option (Option JsonNumber × List Char)
  | exp, c :: rest =>
    if c.isDigit then
      let exp' := exp * 10 + (c.toNat - 48)
      if int32Max < exp' then
        if sig ≠ 0 ∧ positiveExp then some (none, rest.dropWhile Char.isDigit)
        else
          let d := BinaryFormat.double
          some (some (.float (d.withSign (!positive) 0)), rest.dropWhile Char.isDigit)
      else exponentDigits positive sig start positiveExp exp' rest
    else floatNumber positive sig (saturate (if positiveExp then start + exp else start - exp))
      (c :: rest)
  | exp, [] => floatNumber positive sig (saturate (if positiveExp then start + exp else start - exp)) []

/-- The exponent part after `e` or `E`: a sign and at least one digit. -/
def exponentPart (positive : Bool) (sig : Nat) (start : Int) (cs : List Char) :
    Option (Option JsonNumber × List Char) :=
  let (positiveExp, cs) : Bool × List Char := match cs with
    | '+' :: r => (true, r)
    | '-' :: r => (false, r)
    | r => (true, r)
  match cs with
  | c :: rest =>
    if c.isDigit then exponentDigits positive sig start positiveExp (c.toNat - 48) rest else none
  | [] => none

/-- After a significand that no longer fits: further digits are dropped. -/
def afterOverflow (positive : Bool) (sig : Nat) (e : Int) (cs : List Char) :
    Option (Option JsonNumber × List Char) :=
  match cs.dropWhile Char.isDigit with
  | 'e' :: r | 'E' :: r => exponentPart positive sig e r
  | r => floatNumber positive sig e r

/-- Digits after the point; `count` of them were folded into `sig` so far. -/
def fractionDigits (positive : Bool) (start : Int) : Nat → Nat → List Char →
    Option (Option JsonNumber × List Char)
  | sig, count, c :: rest =>
    if c.isDigit then
      let d := c.toNat - 48
      if overflows64 sig d then afterOverflow positive sig (start - count) (c :: rest)
      else fractionDigits positive start (sig * 10 + d) (count + 1) rest
    else if count = 0 then none
    else
      match c with
      | 'e' | 'E' => exponentPart positive sig (start - count) rest
      | _ => floatNumber positive sig (start - count) (c :: rest)
  | sig, count, [] => if count = 0 then none else floatNumber positive sig (start - count) []

/-- Digits of an integer too long for 64 bits: each one raises the exponent. -/
def longInteger (positive : Bool) (sig : Nat) : Nat → List Char → Option (Option JsonNumber × List Char)
  | e, c :: rest =>
    if c.isDigit then longInteger positive sig (e + 1) rest
    else
      match c with
      | '.' => fractionDigits positive e sig 0 rest
      | 'e' | 'E' => exponentPart positive sig e rest
      | _ => floatNumber positive sig e (c :: rest)
  | e, [] => floatNumber positive sig e []

/-- What follows the integer part: a fraction, an exponent, or the end of the number. -/
def afterInteger (positive : Bool) (sig : Nat) (cs : List Char) : Option (Option JsonNumber × List Char) :=
  match cs with
  | '.' :: rest => fractionDigits positive 0 sig 0 rest
  | 'e' :: rest | 'E' :: rest => exponentPart positive sig 0 rest
  | _ =>
    if positive then some (some (.unsigned sig), cs)
    else if sig = 0 ∨ Nat.pow 2 63 < sig then
      some (some (.float (BinaryFormat.double.withSign true (BinaryFormat.double.roundRatio sig 1))), cs)
    else some (some (.negative (-(sig : Int))), cs)

/-- Digits of the integer part. -/
def integerDigits (positive : Bool) : Nat → List Char → Option (Option JsonNumber × List Char)
  | sig, c :: rest =>
    if c.isDigit then
      let d := c.toNat - 48
      if overflows64 sig d then longInteger positive sig 0 (c :: rest)
      else integerDigits positive (sig * 10 + d) rest
    else afterInteger positive sig (c :: rest)
  | sig, [] => afterInteger positive sig []

/-- Reads a number; none inside when its value passes the binary64 range. -/
def readNumber (cs : List Char) : Option (Option JsonNumber × List Char) :=
  let (positive, cs) : Bool × List Char := match cs with
    | '-' :: r => (false, r)
    | r => (true, r)
  match cs with
  | '0' :: rest =>
    match rest with
    | c :: _ => if c.isDigit then none else afterInteger positive 0 rest
    | [] => afterInteger positive 0 []
  | c :: rest => if c.isDigit then integerDigits positive (c.toNat - 48) rest else none
  | [] => none

mutual

/-- Reads one value after optional blanks. -/
def value : Nat → List Char → Option (Json × List Char)
  | 0, _ => none
  | fuel + 1, cs =>
    match skipBlanks cs with
    | '{' :: rest =>
      match skipBlanks rest with
      | '}' :: r => some (.object [], r)
      | r => members fuel true [] r
    | '[' :: rest =>
      match skipBlanks rest with
      | ']' :: r => some (.array [], r)
      | r => items fuel [] r
    | '"' :: rest => (string? rest).map fun (s, r) => (s.elim .unreadable .string, r)
    | 't' :: 'r' :: 'u' :: 'e' :: rest => some (.bool true, rest)
    | 'f' :: 'a' :: 'l' :: 's' :: 'e' :: rest => some (.bool false, rest)
    | 'n' :: 'u' :: 'l' :: 'l' :: rest => some (.null, rest)
    | cs => (readNumber cs).map fun (n, r) => (n.elim .unreadable .number, r)

/-- Reads array items after `[` and the items so far (last first). -/
def items : Nat → List Json → List Char → Option (Json × List Char)
  | 0, _, _ => none
  | fuel + 1, acc, cs =>
    match value fuel cs with
    | none => none
    | some (v, r) =>
      match skipBlanks r with
      | ',' :: r' => items fuel (v :: acc) r'
      | ']' :: r' => some (.array (v :: acc).reverse, r')
      | _ => none

/-- Reads object members after `{` and the members so far (last first); `keysRead` tells
whether every key so far is readable. -/
def members : Nat → Bool → List (String × Json) → List Char → Option (Json × List Char)
  | 0, _, _, _ => none
  | fuel + 1, keysRead, acc, cs =>
    match skipBlanks cs with
    | '"' :: rest =>
      match string? rest with
      | none => none
      | some (k, r) =>
        match skipBlanks r with
        | ':' :: r' =>
          match value fuel r' with
          | none => none
          | some (v, r'') =>
            let keysRead := keysRead && k.isSome
            let acc := ((k.getD ""), v) :: acc
            match skipBlanks r'' with
            | ',' :: r3 => members fuel keysRead acc r3
            | '}' :: r3 => some (if keysRead then .object acc.reverse else .unreadable, r3)
            | _ => none
        | _ => none
    | _ => none

end

/-- Reads a whole JSON document. -/
def parse? (s : String) : Option Json :=
  let cs := s.toList
  match value (2 * cs.length + 2) cs with
  | some (v, rest) => if skipBlanks rest = [] then some v else none
  | none => none

end LineCommands.Json
