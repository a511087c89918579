import LineCommands.Command.Signature
import LineCommands.Cursor.Request
/-!
# Commands

A command has a canonical name, a description, a signature and a behaviour. The built-in
behaviours are paged help, help about one command, the sum of two ints and an echo of a
titled message. A *scripted* command runs a list of steps: requests to its cursor (each
one recorded), writes to its output, looks at the registry, or failures.

Every command value carries a `handle`. Two registrations of one command value share the
handle, and the registry tells commands apart by it, never by their contents: two
commands built alike are still two commands.
-/

namespace LineCommands

/-- One step of a scripted command. -/
inductive Step where
  /-- A request to the cursor; a failure ends the script unless `recover` is set. -/
  | request (r : Request) (recover : Bool := false)
  /-- Writes bytes to the output. -/
  | write (data : Bytes)
  /-- Records the invocation name, the command, its usage and the registry's commands. -/
  | inspect
  /-- Records the registry's debugging text and its custom kinds. -/
  | debug
  /-- Ends the script with a failure of its own. -/
  | fail (message : String)
  /-- Ends the script with the given error. -/
  | raise (e : CommandError)
  deriving DecidableEq, Repr

/-- What a command does when it runs. -/
inductive Behaviour where
  /-- Lists the registry's commands, `pageSize` per page. -/
  | help (pageSize : Nat)
  /-- Describes the command named by its argument. -/
  | helpOf
  /-- Writes the sum of two ints. -/
  | sum
  /-- Writes a message with a title. -/
  | echo
  /-- Runs the steps in order. -/
  | script (steps : List Step)
  deriving DecidableEq, Repr

/-- A command. -/
structure Command where
  handle : Nat
  name : String
  description : String := ""
  signature : Signature := {}
  behaviour : Behaviour
  deriving DecidableEq, Repr

namespace Command

/-- The description of `help`. -/
def helpDescription : String :=
  "Show commands, their usage and their description. For showing information about a " ++
    "specific command, use /helpof command."

/-- A declared argument with its description. -/
def arg (kind : ArgKind) (name description : String) : ArgSpec := { kind, name, description }

/-- Paged help; a page size of zero is raised to one. -/
def help (handle pageSize : Nat) : Command :=
  { handle, name := "help", description := helpDescription,
    signature := { optional := [arg .u32 "page" "Help page to show."] },
    behaviour := .help (max pageSize 1) }

/-- Help about one command. -/
def helpOf (handle : Nat) : Command :=
  { handle, name := "helpof", description := "Show help for a specified command.",
    signature := { args := [arg .text "command" "Command to show the info of."] },
    behaviour := .helpOf }

/-- The sum of two ints. -/
def sum (handle : Nat) : Command :=
  { handle, name := "sum", description := "Count the sum of two integers.",
    signature := { args := [arg .i32 "number1" "First number", arg .i32 "number2" "Second number"] },
    behaviour := .sum }

/-- A titled message. -/
def echo (handle : Nat) : Command :=
  { handle, name := "echo", description := "Return the same text into the output.",
    signature := { args := [arg .text "name" "Title name of the message.",
      arg .text "text" "Message to show to the output."] },
    behaviour := .echo }

/-- The request that reads a declared argument: a custom kind by the argument's name,
any other kind by the generic route. -/
def argumentRequest (required : Bool) (a : ArgSpec) : Step :=
  if a.kind = .custom then .request (.custom a.name required)
  else .request (.value a.kind required)

/-- The script that reads every declared argument in order, mandatory ones required, and
then checks that nothing is left. -/
def defaultScript (s : Signature) : List Step :=
  s.args.map (argumentRequest true) ++ s.optional.map (argumentRequest false) ++ [.request .finish]

/-- The usage line of a command invoked by the name `invokedAs`. -/
def usage (c : Command) (invokedAs : String) (style : UsageStyle) : String :=
  c.signature.usage invokedAs style

end Command

end LineCommands
