import LineCommands.Registry.Basic
/-!
# Running commands

A command runs against a cursor, appends bytes to its output and, when scripted, records
what each of its steps saw. A failure stops the run; the registry then writes a message
that names the argument the cursor was filling (by the argument count, counting mandatory
arguments first, or `#n` past the declared ones) and, for most errors, the usage line of
the name the command was invoked by.

`Registry.dispatch` splits a line at its first space into a name and an argument line;
`Registry.invoke` runs a named command on a value queue. A name that resolves to no
command gets the registry's unknown-name reply.
-/

namespace LineCommands

/-- What a scripted command records. -/
inductive TraceEntry where
  /-- The answer to a request and the cursor's positions after it. -/
  | request (result : Except CommandError Answer) (raw arg : Nat) (exhausted : Bool)
  /-- The invocation name, the command's canonical name, its usage line, the number of
  distinct commands and their canonical names in order. -/
  | inspect (invokedAs command usage : String) (count : Nat) (commands : List String)
  /-- The registry's debugging text and its custom kinds' names. -/
  | debug (tables : String) (types : List String)

/-- The state of one run. -/
structure RunState where
  cursor : Cursor
  out : Bytes := []
  trace : List TraceEntry := []

/-- A computation during a run, which may stop with an error. -/
abbrev RunM := ExceptT CommandError (StateM RunState)

/-- The outcome of a dispatch or invocation: whether the command completed, everything it
and the registry wrote, and what it recorded. -/
structure Outcome where
  ok : Bool
  out : Bytes
  trace : List TraceEntry

namespace RunM

/-- Appends bytes to the output. -/
def write (data : Bytes) : RunM Unit := modify fun s => { s with out := s.out ++ data }

/-- Appends text to the output. -/
def say (text : String) : RunM Unit := write (Bytes.ofString text)

/-- Asks the cursor without recording. -/
def ask (r : Request) : RunM Answer := do
  let s ← get
  let (c', res) := s.cursor.answer r
  set { s with cursor := c' }
  match res with
  | .ok a => pure a
  | .error e => throw e

/-- A required integer. -/
def integer (k : ArgKind) : RunM Int := do
  match ← ask (.read (.integer k) true) with
  | .presented (.integer i) => pure i
  | _ => throw .notEnoughArguments

/-- A required argument as raw bytes. -/
def bytes : RunM Bytes := do
  match ← ask (.read .bytes true) with
  | .presented (.bytes b) => pure b
  | _ => throw .notEnoughArguments

/-- A required argument as text. -/
def text : RunM String := do
  match ← ask (.read .text true) with
  | .presented (.text t) => pure t
  | _ => throw .notEnoughArguments

/-- An optional integer. -/
def optionalInteger (k : ArgKind) : RunM (Option Int) := do
  match ← ask (.read (.integer k) false) with
  | .presented (.integer i) => pure (some i)
  | _ => pure none

/-- Checks that nothing is left. -/
def finish : RunM Unit := do
  let _ ← ask .finish

/-- Records an entry. -/
def record (e : TraceEntry) : RunM Unit := modify fun s => { s with trace := s.trace ++ [e] }

end RunM

open RunM

/-- The number of help pages for `n` commands, `size` per page: at least one. -/
def helpPageCount (n size : Nat) : Nat := (n - 1) / size + 1

/-- The page shown for a requested page: clamped to the pages there are. -/
def helpPage (requested : Option Int) (pages : Nat) : Nat :=
  min (max (requested.getD 1).toNat 1) pages

/-- The text of one help page. -/
def helpText (reg : Registry) (invokedAs : String) (size : Nat) (requested : Option Int) : String :=
  let cmds := reg.sortedCommands
  let pages := helpPageCount cmds.length size
  let page := helpPage requested pages
  let lines := ((cmds.drop ((page - 1) * size)).take size).map fun c =>
    c.usage c.name reg.style ++ ": " ++ c.description ++ "\n"
  let footer :=
    if page < pages then
      "--- Next page: " ++ reg.style.commandPrefix ++ invokedAs ++ " " ++ toString (page + 1) ++ " ---\n"
    else "--- This is the last page ---\n"
  s!"--- Help (page {page} of {pages}) ---\n" ++ String.join lines ++ footer

/-- The lines describing declared arguments, or `(none)`. -/
def argumentLines (as : List ArgSpec) : String :=
  if as.isEmpty then "(none)\n"
  else String.join (as.map fun a =>
    " - " ++ a.name ++ " (" ++ a.kind.displayName ++ "): " ++ a.description ++ "\n")

/-- The description of a command looked up under `name`. -/
def helpOfText (reg : Registry) (name : String) (c : Command) : String :=
  let aliases := reg.aliasesOf c
  "Description: " ++ c.description ++ "\n" ++
    (if aliases.isEmpty then "Aliases: (none)\n" else "Aliases: " ++ ", ".intercalate aliases ++ "\n") ++
    c.usage name reg.style ++ "\nArguments:\n" ++ argumentLines c.signature.args ++
    "Optional arguments:\n" ++ argumentLines c.signature.optional

/-- Runs one step of a script. -/
def runStep (reg : Registry) (invokedAs : String) (c : Command) : Step → RunM Unit
  | .request r recover => do
    let s ← get
    let (c', res) := s.cursor.answer r
    set { s with cursor := c' }
    record (.request res c'.rawPosition c'.argumentPosition c'.exhausted)
    match res with
    | .error e => if recover then pure () else throw e
    | .ok _ => pure ()
  | .write data => write data
  | .inspect =>
    record (.inspect invokedAs c.name (c.usage invokedAs reg.style) reg.commandCount
      (reg.sortedCommands.map (·.name)))
  | .debug => record (.debug reg.debugText reg.types.keys)
  | .fail m => throw (.failed m)
  | .raise e => throw e

/-- Runs a command invoked by the name `invokedAs`. -/
def Command.execute (reg : Registry) (invokedAs : String) (c : Command) : RunM Unit :=
  match c.behaviour with
  | .help size => do
    let requested ← optionalInteger .u32
    finish
    say (helpText reg invokedAs size requested)
  | .helpOf => do
    let name ← text
    finish
    match reg.lookup name with
    | none => throw (.commandNotFound name)
    | some target => say (helpOfText reg name target)
  | .sum => do
    let a ← integer .i32
    let b ← integer .i32
    finish
    say ("Result: " ++ toString (a + b) ++ "\n")
  | .echo => do
    let name ← bytes
    let body ← bytes
    finish
    write (Bytes.ofString "Message [" ++ name ++ Bytes.ofString "]: " ++ body ++ [10])
  | .script steps => steps.forM (runStep reg invokedAs c)

/-- The message for a failed run, given the cursor as the failure left it. -/
def describe (reg : Registry) (invokedAs : String) (c : Command) (cursor : Cursor)
    (e : CommandError) : String :=
  let pos := cursor.argumentPosition
  let argument := match c.signature.argumentAt pos with
    | some a => a.name
    | none => "#" ++ toString (pos + 1)
  let usage := c.usage invokedAs reg.style
  match e with
  | .notEnoughArguments =>
    s!"This command requires at least {c.signature.args.length} arguments, but received {pos}.\n" ++
      usage ++ "\n"
  | .tooManyArguments =>
    "This command requires at most " ++ toString (c.signature.args.length + c.signature.optional.length) ++
      " arguments, but received more.\n" ++ usage ++ "\n"
  | .unclosedQuote _ => "Unclosed quote in argument \"" ++ argument ++ "\".\n" ++ usage ++ "\n"
  | .unexpectedEscape _ => "Error: unexpected escape character encountered at the end of the line.\n"
  | .invalidEscape _ =>
    "Invalid escape code sequence specified for argument \"" ++ argument ++ "\":\n" ++ cursor.rest ++ "\n"
  | .invalidArgument _ _ => "Invalid value specified for argument \"" ++ argument ++ "\".\n" ++ usage ++ "\n"
  | .outOfRange _ _ => "Value outside of the boundaries provided for argument \"" ++ argument ++ "\".\n"
  | .unknownCustomType t => "Argument \"" ++ argument ++ "\" has unknown type \"" ++ t ++ "\".\n"
  | .commandNotFound n => "Command \"" ++ n ++ "\" not found.\n"
  | .argumentsAfterRemainder => "Command \"" ++ invokedAs ++ "\" requested an argument after the full text.\n"
  | .failed m => m ++ "\n"

namespace Registry

/-- Runs a command invoked by the name `invokedAs` on a cursor; a failure appends its message. -/
def run (reg : Registry) (invokedAs : String) (c : Command) (cursor : Cursor) : Outcome :=
  let (res, s) := (c.execute reg invokedAs).run { cursor } |>.run
  match res with
  | .ok () => ⟨true, s.out, s.trace⟩
  | .error e => ⟨false, s.out ++ Bytes.ofString (describe reg invokedAs c s.cursor e), s.trace⟩

/-- The name and the argument line of a line: split at the first space. -/
def splitLine (line : String) : String × String :=
  match line.toList.span (· ≠ ' ') with
  | (name, _ :: rest) => (String.ofList name, String.ofList rest)
  | (name, []) => (String.ofList name, "")

/-- Runs a line: the command its first word names, reading the rest of the line. -/
def dispatch (reg : Registry) (line : String) : Outcome :=
  let (name, args) := splitLine line
  match reg.lookup name with
  | none => ⟨false, reg.unknownReply.text name, []⟩
  | some c => reg.run name c (.line (LineCursor.ofString args (some reg.types)))

/-- Runs the command a name resolves to on a value queue. -/
def invoke (reg : Registry) (name : String) (q : ValueQueue) : Outcome :=
  match reg.lookup name with
  | none => ⟨false, reg.unknownReply.text name, []⟩
  | some c => reg.run name c (.queue q)

end Registry

end LineCommands
