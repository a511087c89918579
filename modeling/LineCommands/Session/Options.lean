/-!
# Command-line options

The program takes these options:

* `--config <PATH>`: the settings file (also from the `ARGLINE_CONFIG` variable);
* `--prompt <STR>`: the prompt printed before each line, over the one of the settings;
* `--structured`: read JSON invocations instead of text lines;
* `-h`, `--help` and `-V`, `--version`.

The words are read left to right. A value option takes its value after `=` or from the
next word; the next word is its value unless it starts with `-` and is more than `-`. The
value of an option is settled when the next option starts or the words end; `--` only
ends the options, and as the program takes no other words, any word after it is an error.
The first of these ends the reading at once:

* an unknown option, a word that is no option's value, or a value given to a flag is a
  usage error;
* settling a value option is a usage error when it has no value, when it was given
  before, or when it names the settings file by the empty path;
* help or version, which settle a pending value first.
-/

namespace LineCommands

/-- The options that shape a session. -/
structure Options where
  config : Option String := none
  prompt : Option String := none
  structured : Bool := false
  deriving DecidableEq, Repr

/-- The option whose value is still being read. -/
inductive ValueOption where
  | config
  | prompt
  deriving DecidableEq, Repr

/-- The spelling of a value option in messages. -/
def ValueOption.spelling : ValueOption → String
  | .config => "--config <PATH>"
  | .prompt => "--prompt <STR>"

/-- What the command line asks for. -/
inductive Launch where
  /-- Run a session with these options. -/
  | run (o : Options)
  /-- Print the help text. -/
  | help
  /-- Print the version. -/
  | version
  /-- The words are not a valid command line; the text says why. -/
  | usageError (why : String)
  deriving DecidableEq, Repr

/-- The state of reading the words. -/
structure OptionReader where
  options : Options := {}
  /-- The value options settled so far. -/
  given : List ValueOption := []
  structuredGiven : Bool := false
  /-- A value option whose value is not yet settled, and the value read for it. -/
  pending : Option (ValueOption × Option String) := none
  /-- Whether the next word that is not an option is the pending option's value. -/
  awaiting : Bool := false
  /-- Whether `--` was read: no option follows. -/
  trailing : Bool := false

namespace OptionReader

/-- The error of a value option settled without a usable value. -/
def missingValue (o : ValueOption) : String :=
  "a value is required for '" ++ o.spelling ++ "' but none was supplied"

/-- Settles the pending option's value. It is an error when there is no value, when the
option was settled before, and when the settings file is the empty path. -/
def settle (r : OptionReader) : Except String OptionReader :=
  match r.pending with
  | none => .ok r
  | some (o, none) => .error (missingValue o)
  | some (o, some v) =>
    if r.given.contains o then
      .error ("the argument '" ++ o.spelling ++ "' cannot be used multiple times")
    else
      match o with
      | .config =>
        if v.isEmpty then .error (missingValue o)
        else .ok { r with options.config := some v, given := r.given ++ [o], pending := none }
      | .prompt => .ok { r with options.prompt := some v, given := r.given ++ [o], pending := none }

/-- What reading one word leads to: more words, or an answer. -/
inductive Step where
  | next (r : OptionReader)
  | stop (l : Launch)

/-- An error that ends the reading. -/
def fail (why : String) : Step := .stop (.usageError why)

/-- The error of a word that is no option and no option's value. -/
def unexpected (w : String) : Step := fail ("unexpected argument '" ++ w ++ "' found")

/-- Settles the pending value, then continues with `k`. -/
def settleThen (r : OptionReader) (k : OptionReader → Step) : Step :=
  match r.settle with
  | .ok r => k r
  | .error why => fail why

/-- Reads a long option `--name`, with the value after `=` if there is one. -/
def long (r : OptionReader) (name : String) (value : Option String) : Step :=
  let valueOption := fun (o : ValueOption) =>
    match value with
    | some v => r.settleThen fun r =>
      settleThen { r with pending := some (o, some v) } fun r => .next { r with awaiting := false }
    | none => r.settleThen fun r => .next { r with pending := some (o, none), awaiting := true }
  let flag := fun (k : OptionReader → Step) =>
    match value with
    | some v => fail ("unexpected value '" ++ v ++ "' for '--" ++ name ++ "' found; no more were expected")
    | none => r.settleThen k
  if name = "config" then valueOption .config
  else if name = "prompt" then valueOption .prompt
  else if name = "structured" then
    flag fun r =>
      if r.structuredGiven then fail "the argument '--structured' cannot be used multiple times"
      else
        let options := { r.options with structured := true }
        .next { r with structuredGiven := true, options, awaiting := false }
  else if name = "help" then flag fun _ => .stop .help
  else if name = "version" then flag fun _ => .stop .version
  else unexpected ("--" ++ name)

/-- Reads a cluster of short options: the first letter decides. -/
def short (r : OptionReader) : List Char → Step
  | 'h' :: _ => r.settleThen fun _ => .stop .help
  | 'V' :: _ => r.settleThen fun _ => .stop .version
  | c :: _ => unexpected ("-" ++ String.singleton c)
  | [] => unexpected "-"

/-- Reads a word that is not an option: the awaited value, or an error. -/
def value (r : OptionReader) (w : String) : Step :=
  match r.awaiting, r.pending with
  | true, some (o, _) => .next { r with pending := some (o, some w), awaiting := false }
  | _, _ => unexpected w

/-- Reads one word. -/
def word (r : OptionReader) (w : String) : Step :=
  if r.trailing then unexpected w
  else
    match w.toList with
    | ['-', '-'] => .next { r with trailing := true }
    | '-' :: '-' :: rest =>
      match rest.span (· ≠ '=') with
      | (name, []) => r.long (String.ofList name) none
      | (name, _ :: v) => r.long (String.ofList name) (some (String.ofList v))
    | '-' :: c :: rest => r.short (c :: rest)
    | _ => r.value w

/-- Reads the remaining words. -/
def words (r : OptionReader) : List String → Step
  | [] => .next r
  | w :: ws =>
    match r.word w with
    | .next r' => r'.words ws
    | .stop l => .stop l

/-- The options once the words have ended: the pending value is settled, and the
variable gives the settings file when no option did. -/
def finish (r : OptionReader) (configVar : Option String) : Launch :=
  match r.settle with
  | .error why => .usageError why
  | .ok r =>
    let options := if r.options.config.isNone then { r.options with config := configVar } else r.options
    .run options

end OptionReader

/-- Reads a command line; `configVar` is the value of `ARGLINE_CONFIG`, if set. -/
def Launch.read (args : List String) (configVar : Option String) : Launch :=
  match ({} : OptionReader).words args with
  | .next r => r.finish configVar
  | .stop l => l

/-- The text `--version` prints. -/
def Launch.versionText : String := "argline 0.1.0\n"

/-- The text `--help` prints; it shows the value of `ARGLINE_CONFIG`. -/
def Launch.helpText (configVar : Option String) : String :=
  "Typed command-line argument tokenizer and command dispatcher\n\n" ++
  "Usage: argline [OPTIONS]\n\n" ++
  "Options:\n" ++
  "      --config <PATH>  Config file path [env: ARGLINE_CONFIG=" ++ configVar.getD "" ++ "]\n" ++
  "      --prompt <STR>   Prompt printed before each line (overrides the config file)\n" ++
  "      --structured     Read JSON invocations instead of text lines\n" ++
  "  -h, --help           Print help\n" ++
  "  -V, --version        Print version\n"

/-- The text of a usage error, as written to the error stream. -/
def Launch.usageErrorText (why : String) : String :=
  "error: " ++ why ++ "\n\nUsage: argline [OPTIONS]\n\nFor more information, try '--help'.\n"

end LineCommands
