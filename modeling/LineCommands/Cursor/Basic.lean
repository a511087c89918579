import LineCommands.Cursor.Line
import LineCommands.Cursor.Queue
/-!
# Cursors

A command reads its arguments from a `Cursor`: the line cursor of a typed line or the
value queue of a structured invocation. Both answer the same requests: the next value of
a kind, the next value of a named custom kind, and `finish`, which fails with
`tooManyArguments` when input remains. Every request returns the cursor after it with its
answer, so a failed request still shows how the cursor moved.
-/

namespace LineCommands

/-- The argument source of one command run. -/
inductive Cursor where
  | line (c : LineCursor)
  | queue (q : ValueQueue)

namespace Cursor

/-- The raw position: a byte offset into the line, or the count of values taken. -/
def rawPosition : Cursor → Nat
  | .line c => c.pos
  | .queue q => q.argPos

/-- The count of arguments handed out. -/
def argumentPosition : Cursor → Nat
  | .line c => c.argPos
  | .queue q => q.argPos

/-- Whether no argument is left. -/
def exhausted : Cursor → Bool
  | .line c => c.exhausted
  | .queue q => q.exhausted

/-- The unconsumed text of a line cursor; empty for a queue. -/
def rest : Cursor → String
  | .line c => c.rest
  | .queue _ => ""

/-- Hands out the next value of a kind. -/
def nextValue (k : ArgKind) (required : Bool) :
    Cursor → Cursor × Except CommandError (Option ArgValue)
  | .line c => let (c', r) := c.nextValue k required; (.line c', r)
  | .queue q => let (q', r) := q.nextValue k required; (.queue q', r)

/-- Hands out the next value of a named custom kind. -/
def nextCustom (name : String) (required : Bool) :
    Cursor → Cursor × Except CommandError (Option String)
  | .line c => let (c', r) := c.nextCustom name required; (.line c', r)
  | .queue q => let (q', r) := q.nextCustom name required; (.queue q', r)

/-- Succeeds when no argument is left. -/
def finish (c : Cursor) : Except CommandError Unit :=
  if c.exhausted then .ok () else .error .tooManyArguments

end Cursor

end LineCommands
