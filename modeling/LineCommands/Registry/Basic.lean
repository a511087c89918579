import LineCommands.Command.Basic
/-!
# The command registry

A registry maps invocation names to commands (`aliases`, sorted by name) and keeps the
distinct registered commands in registration order (`commands`). It also holds the custom
kinds that lines are read with, the usage style, and the reply to a line that names no
command.

Every change returns the new registry and whether it took place; a change that did not
take place leaves the registry as it was. Registering under a name fails when the
command's signature is invalid (checked first) or the name is taken. Unregistering a name
removes its command from the distinct commands, and with `deleteAliases` every name that
resolves to it; without, the names keep resolving to it.
-/

namespace LineCommands

/-- What the registry writes when a line names no known command. -/
inductive UnknownReply where
  /-- `Unknown command: <name>` and a line feed. -/
  | standard
  /-- `? <name>`, with no line feed. -/
  | question
  /-- Nothing. -/
  | silent
  deriving DecidableEq, Repr

/-- The reply's bytes for an unknown name. -/
def UnknownReply.text : UnknownReply → String → Bytes
  | .standard, name => Bytes.ofString ("Unknown command: " ++ name ++ "\n")
  | .question, name => Bytes.ofString ("? " ++ name)
  | .silent, _ => []

/-- The state of a command registry. -/
structure Registry where
  aliases : NameMap Command := NameMap.empty
  commands : List Command := []
  types : TypeTable := NameMap.empty
  style : UsageStyle := {}
  unknownReply : UnknownReply := .standard
  nextHandle : Nat := 0

namespace Registry

variable (r : Registry)

/-- A fresh command handle. -/
def mint : Nat × Registry := (r.nextHandle, { r with nextHandle := r.nextHandle + 1 })

/-- The command a name resolves to. -/
def lookup (name : String) : Option Command := r.aliases.find? name

/-- Number of distinct registered commands. -/
def commandCount : Nat := r.commands.length

/-- The distinct commands sorted by canonical name; commands of one name keep their
registration order. -/
def sortedCommands : List Command :=
  r.commands.mergeSort fun a b => decide (a.name ≤ b.name)

/-- The names that resolve to a command, in increasing order. -/
def aliasesOf (c : Command) : List String :=
  (r.aliases.entries.filter fun e => e.2.handle = c.handle).map (·.1)

/-- Registers a command under a name. -/
def registerAs (name : String) (c : Command) : Registry × Bool :=
  match c.signature.validate with
  | .error _ => (r, false)
  | .ok () =>
    if r.aliases.contains name then (r, false)
    else
      let commands := if r.commands.any (·.handle = c.handle) then r.commands else r.commands ++ [c]
      ({ r with commands, aliases := r.aliases.insert name c }, true)

/-- Registers a command under its canonical name. -/
def register (c : Command) : Registry × Bool := r.registerAs c.name c

/-- Makes `newName` resolve to the command `existing` resolves to. -/
def addAlias (newName existing : String) : Registry × Bool :=
  if r.aliases.contains newName then (r, false)
  else
    match r.lookup existing with
    | none => (r, false)
    | some c => ({ r with aliases := r.aliases.insert newName c }, true)

/-- Removes one name; the command stays registered. -/
def removeAlias (name : String) : Registry × Bool :=
  if r.aliases.contains name then ({ r with aliases := r.aliases.erase name }, true)
  else (r, false)

/-- Unregisters the command a name resolves to. -/
def unregister (name : String) (deleteAliases : Bool) : Registry × Bool :=
  match r.lookup name with
  | none => (r, false)
  | some c =>
    let commands := r.commands.filter (·.handle != c.handle)
    let aliases := if deleteAliases then r.aliases.filterValues (·.handle != c.handle) else r.aliases
    ({ r with commands, aliases }, true)

/-- Adds a custom kind; fails when the name is taken. -/
def registerType (name : String) (p : ValueParser) : Registry × Bool :=
  match r.types.register? name p with
  | some t => ({ r with types := t }, true)
  | none => (r, false)

/-- Removes a custom kind; fails when there is none of that name. -/
def unregisterType (name : String) : Registry × Bool :=
  match r.types.unregister? name with
  | some t => ({ r with types := t }, true)
  | none => (r, false)

/-- The debugging text of the registry: its names, its command count and its custom
kinds. -/
def debugText : String :=
  "Tables \x7b aliases: [" ++ ", ".intercalate (r.aliases.keys.map Text.quote) ++
    "], command_count: " ++ toString r.commandCount ++ ", types: \x7b" ++
    ", ".intercalate (r.types.keys.map Text.quote) ++ "\x7d, .. \x7d"

/-- Registers paged help and help about one command; stops at the first failure. -/
def registerBuiltins (pageSize : Nat) : Registry × Bool :=
  let (h, r) := r.mint
  let (r, ok) := r.register (Command.help h pageSize)
  if ok then
    let (h, r) := r.mint
    r.register (Command.helpOf h)
  else (r, false)

/-- Registers `sum` and `echo` and the alias `msg` of `echo`; stops at the first
failure. -/
def registerDemo : Registry × Bool :=
  let (h, r) := r.mint
  let (r, ok) := r.register (Command.sum h)
  if ok then
    let (h, r) := r.mint
    let (r, ok) := r.register (Command.echo h)
    if ok then r.addAlias "msg" "echo" else (r, false)
  else (r, false)

end Registry

end LineCommands
