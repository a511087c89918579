import LineCommands.Cursor.Request
/-!
# Runs of requests

A command body makes its requests one after another, each of the cursor that the previous
one left. `Cursor.serve` answers a list of requests in that way and records, after each
request, what a command can observe of its cursor: the answer, the count of arguments
handed out, and whether input remains.
-/

namespace LineCommands

/-- What a command observes after one request. -/
structure Reply where
  answer : Except CommandError Answer
  argumentPosition : Nat
  exhausted : Bool

namespace Cursor

/-- Answers requests in order: the replies, and the cursor after the last request. -/
def serve : Cursor → List Request → List Reply × Cursor
  | c, [] => ([], c)
  | c, p :: ps =>
    let (c', a) := c.answer p
    let (rs, c'') := c'.serve ps
    (⟨a, c'.argumentPosition, c'.exhausted⟩ :: rs, c'')

@[simp] theorem serve_nil (c : Cursor) : c.serve [] = ([], c) := rfl

@[simp] theorem serve_cons (c : Cursor) (p : Request) (ps : List Request) :
    c.serve (p :: ps) =
      (⟨(c.answer p).2, (c.answer p).1.argumentPosition, (c.answer p).1.exhausted⟩ ::
        ((c.answer p).1.serve ps).1, ((c.answer p).1.serve ps).2) := rfl

end Cursor

end LineCommands
