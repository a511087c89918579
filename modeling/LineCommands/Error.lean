import LineCommands.Argument.Kind
import LineCommands.Text.Quoted
/-!
# Command errors

Everything that can go wrong while a command pulls its arguments or runs is one
`CommandError`. Positions are byte offsets into the argument line; `expected` is the kind
that was requested and `value` the token as text. `CommandError.message` is the one place
where the wording of each error lives.
-/

namespace LineCommands

/-- Why an argument request or a command failed. -/
inductive CommandError where
  /-- A required argument was requested but the source holds no more. -/
  | notEnoughArguments
  /-- The command declared itself finished but input remains. -/
  | tooManyArguments
  /-- A quoted token starting at `position` has no closing quote. -/
  | unclosedQuote (position : Nat)
  /-- A backslash at `position` ends the line and escapes nothing. -/
  | unexpectedEscape (position : Nat)
  /-- The escape sequence starting at `position` is malformed. -/
  | invalidEscape (position : Nat)
  /-- The token is no literal of the requested kind. -/
  | invalidArgument (expected : ArgKind) (value : String)
  /-- The literal does not fit the requested kind. -/
  | outOfRange (expected : ArgKind) (value : String)
  /-- A custom kind was requested that nobody registered. -/
  | unknownCustomType (name : String)
  /-- A command name resolves to no command. -/
  | commandNotFound (name : String)
  /-- An argument was requested after the full rest of the line was taken. -/
  | argumentsAfterRemainder
  /-- The command ran and reported a failure of its own. -/
  | failed (message : String)
  deriving DecidableEq, Repr, Inhabited

namespace CommandError

/-- The text of an error. -/
def message : CommandError → String
  | .notEnoughArguments => "not enough arguments specified"
  | .tooManyArguments => "too many arguments specified"
  | .unclosedQuote p => s!"unclosed quote encountered at byte {p}"
  | .unexpectedEscape p => s!"argument ends with an unexpected escape character at byte {p}"
  | .invalidEscape p => s!"escape format specified incorrectly at byte {p}"
  | .invalidArgument k v => "invalid " ++ k.displayName ++ " value: " ++ Text.quote v
  | .outOfRange k v => k.displayName ++ " value out of range: " ++ Text.quote v
  | .unknownCustomType n => "unknown custom argument type: " ++ n
  | .commandNotFound n => "specified command not found: " ++ n
  | .argumentsAfterRemainder => "argument requested after the full remainder was consumed"
  | .failed m => m

/-- Errors raised while splitting or converting a token. -/
def isParseError : CommandError → Bool
  | .unclosedQuote _ | .unexpectedEscape _ | .invalidEscape _ | .invalidArgument _ _
  | .outOfRange _ _ => true
  | _ => false

end CommandError

end LineCommands
