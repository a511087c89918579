import LineCommands.Argument.Kind
import LineCommands.Text.Quoted
/-!
# Command signatures

A command declares its mandatory arguments and then its optional ones, each with a kind,
a name and a description. The declaration drives the usage line shown in help and in
diagnostics, names the argument a failure is about (`Signature.argumentAt`), and is
checked when the command is registered: an argument of the full kind takes the rest of
the line, so it must be the last one (`Signature.validate`).

A usage line is the command prefix and the name the command was invoked by, then for each
argument a space, the opening piece (of mandatory or of optional arguments), the name,
the kind's display name between the two type pieces, and the closing piece. A
`UsageStyle` holds these pieces.
-/

namespace LineCommands

/-- The pieces of a usage line such as `/sum (a <int>) [b <int>]`. -/
structure UsageStyle where
  commandPrefix : String := "/"
  argBefore : String := "("
  argAfter : String := ")"
  optargBefore : String := "["
  optargAfter : String := "]"
  typeBefore : String := " <"
  typeAfter : String := ">"
  deriving DecidableEq, Repr, Inhabited

/-- A declared argument. -/
structure ArgSpec where
  kind : ArgKind
  name : String
  description : String := ""
  deriving DecidableEq, Repr, Inhabited

/-- The arguments a command declares: mandatory ones, then optional ones. -/
structure Signature where
  args : List ArgSpec := []
  optional : List ArgSpec := []
  deriving DecidableEq, Repr, Inhabited

/-- Why a signature cannot be registered. -/
inductive SignatureError where
  /-- The argument of the full kind with this name is followed by another one. -/
  | fullNotLast (name : String)
  deriving DecidableEq, Repr

/-- The text of a signature error. -/
def SignatureError.message : SignatureError → String
  | .fullNotLast n => "argument \"" ++ n ++ "\" consumes the full line but is not last"

namespace Signature

variable (s : Signature)

/-- All declared arguments, mandatory ones first. -/
def all : List ArgSpec := s.args ++ s.optional

/-- The argument declared at a position, counting mandatory ones first. -/
def argumentAt (pos : Nat) : Option ArgSpec :=
  if pos < s.args.length then s.args[pos]? else s.optional[pos - s.args.length]?

/-- One argument in a usage line. -/
def usagePiece (style : UsageStyle) (before after : String) (a : ArgSpec) : String :=
  " " ++ before ++ a.name ++ style.typeBefore ++ a.kind.displayName ++ style.typeAfter ++ after

/-- The usage line of a command invoked by the name `invokedAs`. -/
def usage (invokedAs : String) (style : UsageStyle) : String :=
  let mandatory := s.args.map (usagePiece style style.argBefore style.argAfter)
  let optional := s.optional.map (usagePiece style style.optargBefore style.optargAfter)
  String.join (style.commandPrefix :: invokedAs :: mandatory ++ optional)

/-- Checks that the first argument of the full kind, if any, is the last argument. -/
def validate : Except SignatureError Unit :=
  match s.all.findIdx? (·.kind = .full) with
  | some i => if i + 1 = s.all.length then .ok () else
      .error (.fullNotLast ((s.all[i]?.map (·.name)).getD ""))
  | none => .ok ()

/-- The debugging text of one argument. -/
def argDebugText (a : ArgSpec) : String :=
  "ArgDef \x7b arg_type: " ++ a.kind.constructorName ++ ", name: " ++ Text.quote a.name ++
    ", description: " ++ Text.quote a.description ++ " \x7d"

/-- The debugging text of a list of arguments. -/
def argsDebugText (as : List ArgSpec) : String :=
  "[" ++ ", ".intercalate (as.map argDebugText) ++ "]"

/-- The debugging text of a command with this signature. -/
def debugText (name : String) : String :=
  "CommandDef \x7b name: " ++ Text.quote name ++ ", args: " ++ argsDebugText s.args ++
    ", optional_args: " ++ argsDebugText s.optional ++ ", .. \x7d"

end Signature

end LineCommands
