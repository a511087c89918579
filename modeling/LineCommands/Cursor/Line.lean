import LineCommands.Token.Scan
import LineCommands.Argument.Read
import LineCommands.Argument.Parser
/-!
# The line cursor

A `LineCursor` hands out the arguments of one line on request. It keeps the line's bytes,
the raw position (a byte offset), the count of arguments handed out, whether the full rest
of the line was taken, and the custom kinds it can read.

A request first skips spaces, and that move stays even when no argument follows or the
request fails; everything else is committed only when the request succeeds: the raw
position moves past the token and the argument count grows by one. A request for the full
rest takes all remaining bytes, escapes expanded; after it every request fails with
`argumentsAfterRemainder`. A request for the custom kind by the generic route fails with
`unknownCustomType ""` before anything else.

The unconsumed text is the text from the raw position on. A raw position that is no
character boundary of the line's text has no such text, and the unconsumed text is then
empty.
-/

namespace LineCommands

/-- A cursor over the arguments of one line. -/
structure LineCursor where
  line : Bytes
  pos : Nat := 0
  argPos : Nat := 0
  remainderTaken : Bool := false
  types : Option TypeTable := none

namespace LineCursor

/-- A cursor at the start of a line, knowing the given custom kinds. -/
def ofString (s : String) (types : Option TypeTable := none) : LineCursor :=
  { line := Bytes.ofString s, types := types }

variable (c : LineCursor)

/-- The bytes not consumed yet. -/
def restBytes : Bytes := c.line.drop c.pos

/-- Whether the raw position is a character boundary of the line's text: it lies within the
line and the bytes in front of it read as text. -/
def atBoundary : Bool :=
  decide (c.pos ≤ c.line.length) && (Utf8.toText? (c.line.take c.pos)).isSome

/-- The text not consumed yet: the text from the raw position on, or the empty text when
the raw position is no character boundary. -/
def rest : String := if c.atBoundary then Utf8.lossy c.restBytes else ""

/-- Where the next token starts: the raw position after the spaces there. -/
def tokenStart : Nat := c.pos + Token.leadingSpaces c.restBytes

/-- Whether no argument is left. -/
def exhausted : Bool := c.remainderTaken || c.line.length ≤ c.tokenStart

/-- The cursor moved to the next token's start. -/
def skipSpaces : LineCursor := { c with pos := c.tokenStart }

@[simp] theorem skipSpaces_line : c.skipSpaces.line = c.line := rfl
@[simp] theorem skipSpaces_pos : c.skipSpaces.pos = c.tokenStart := rfl
@[simp] theorem skipSpaces_argPos : c.skipSpaces.argPos = c.argPos := rfl
@[simp] theorem skipSpaces_remainderTaken : c.skipSpaces.remainderTaken = c.remainderTaken := rfl
@[simp] theorem skipSpaces_types : c.skipSpaces.types = c.types := rfl

/-- The answer when the line holds no further token. -/
def missing {α : Type} (required : Bool) : Except CommandError (Option α) :=
  if required then .error .notEnoughArguments else .ok none

/-- Hands out the next value of a kind. -/
def nextValue (k : ArgKind) (required : Bool) :
    LineCursor × Except CommandError (Option ArgValue) :=
  if k = .custom then (c, .error (.unknownCustomType ""))
  else if c.remainderTaken then (c, .error .argumentsAfterRemainder)
  else
    let c := c.skipSpaces
    if c.line.length ≤ c.pos then (c, missing required)
    else if k = .full then
      match Escape.unescapeAt c.pos c.restBytes with
      | .error e => (c, .error e)
      | .ok out =>
        ({ c with pos := c.line.length, argPos := c.argPos + 1, remainderTaken := true },
          .ok (some (.full out)))
    else
      match Token.extract c.pos c.restBytes with
      | .error e => (c, .error e)
      | .ok (token, n) =>
        match ArgValue.read k token with
        | .error e => (c, .error e)
        | .ok v => ({ c with pos := c.pos + n, argPos := c.argPos + 1 }, .ok (some v))

/-- Hands out the next value of a named custom kind, normalised by its parser. A
refusal is `invalidArgument` of the custom kind showing the token's text. -/
def nextCustom (name : String) (required : Bool) :
    LineCursor × Except CommandError (Option String) :=
  match c.types.bind (·.find? name) with
  | none => (c, .error (.unknownCustomType name))
  | some parser =>
    if c.remainderTaken then (c, .error .argumentsAfterRemainder)
    else
      let c := c.skipSpaces
      if c.line.length ≤ c.pos then (c, missing required)
      else
        match Token.extract c.pos c.restBytes with
        | .error e => (c, .error e)
        | .ok (token, n) =>
          let text := Utf8.lossy token
          match parser text with
          | .error _ => (c, .error (.invalidArgument .custom text))
          | .ok v => ({ c with pos := c.pos + n, argPos := c.argPos + 1 }, .ok (some v))

end LineCursor

end LineCommands
