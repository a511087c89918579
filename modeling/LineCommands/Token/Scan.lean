import LineCommands.Token.Escape
/-!
# Token boundaries

An argument line is a sequence of tokens separated by spaces (the byte `0x20` only). A
token that starts with `'` or `"` is quoted and ends at the next unescaped quote of the
same kind; any other token is bare and ends at the next unescaped space or at the end of
the line. In both scans a backslash takes the byte after it along, so escapes pair up:
in `\\"` the quote is not escaped, in `\"` it is.

The scanners work on the bytes from the token's start to the end of the line and return
lengths. `Token.extract` then expands the escapes of the token's body; a fault found by a
scanner is reported before any fault inside the body.
-/

namespace LineCommands.Token

/-- The separator byte. -/
def space : UInt8 := 32

/-- Whether a byte opens a quoted token. -/
def isQuote (b : UInt8) : Bool := b = 39 || b = 34

/-- Number of spaces at the front. -/
def leadingSpaces (bs : Bytes) : Nat := (bs.takeWhile (· = space)).length

/-- The length of a quoted token's body, scanning the bytes after the opening quote `q`
for the closing one; `none` when the line ends first. -/
def quotedBody (q : UInt8) : Bytes → Option Nat
  | [] => none
  | b :: rest =>
    if b = Escape.backslash then
      match rest with
      | [] => none
      | _ :: r => (· + 2) <$> quotedBody q r
    else if b = q then some 0
    else (· + 1) <$> quotedBody q rest

/-- The length of a bare token, or the offset of a backslash that ends the line. -/
def bareLength : Bytes → Except Nat Nat
  | [] => .ok 0
  | b :: rest =>
    if b = Escape.backslash then
      match rest with
      | [] => .error 0
      | _ :: r =>
        match bareLength r with
        | .ok n => .ok (n + 2)
        | .error i => .error (i + 2)
    else if b = space then .ok 0
    else
      match bareLength rest with
      | .ok n => .ok (n + 1)
      | .error i => .error (i + 1)

/-- The token at the front of `rest`, which starts at offset `pos` of the line: its bytes
with escapes expanded and the number of line bytes it spans (quotes included). -/
def extract (pos : Nat) (rest : Bytes) : Except CommandError (Bytes × Nat) :=
  match rest with
  | [] => .ok ([], 0)
  | b :: after =>
    if isQuote b then
      match quotedBody b after with
      | none => .error (.unclosedQuote pos)
      | some n => (fun out => (out, n + 2)) <$> Escape.unescapeAt (pos + 1) (after.take n)
    else
      match bareLength rest with
      | .error i => .error (.unexpectedEscape (pos + i))
      | .ok n => (fun out => (out, n)) <$> Escape.unescapeAt pos (rest.take n)

end LineCommands.Token
