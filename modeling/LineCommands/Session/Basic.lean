import LineCommands.Session.Options
import LineCommands.Settings
import LineCommands.Registry.Run
import LineCommands.Invocation
/-!
# Sessions

A session reads lines and answers each one:

* in text mode it greets first, and prints its prompt before each read;
* a line is read up to its line end, and must be UTF-8, or the session fails;
* line ends and carriage returns at the end of a line are dropped;
* the quit word ends the session (before empty lines are skipped, so an empty quit word
  ends it at the first empty line);
* a text line is dispatched to the command its first word names; in structured mode a
  line is a JSON invocation, and one that cannot be read is answered with its error;
* the end of the input ends the session.

`Session.converse` runs a session over the lines of an input; `runProgram` runs the
whole program: the command line, the settings file, the registry, then the session.
-/

namespace LineCommands

/-- A running session. -/
structure Session where
  registry : Registry
  quitWord : String
  prompt : String
  structured : Bool

/-- What a session does with one line it read. -/
inductive Turn where
  /-- The line is the quit word. -/
  | quit
  /-- The line is not UTF-8. -/
  | fail
  /-- The output the line gives (nothing for an empty line). -/
  | reply (out : Bytes)
  deriving DecidableEq, Repr

namespace Session

/-- The text a structured line that is no invocation is answered with. -/
def malformedText (detail : String) : String :=
  "Invocation error: malformed invocation: " ++ detail ++ "\n"

/-- The session of a program run: the built-in and demo commands, the page size, the
usage style and the aliases of the settings; none when registering fails. -/
def start (o : Options) (cfg : Settings) : Option Session :=
  let (reg, ok) := ({} : Registry).registerBuiltins cfg.helpPageSize
  let (reg, ok) := if ok then reg.registerDemo else (reg, false)
  if ok then
    let (reg, _) := cfg.apply reg
    some {
      registry := reg
      quitWord := cfg.quitWord
      prompt := o.prompt.getD cfg.prompt
      structured := o.structured
    }
  else none

/-- The greeting of a text session; it names the prompt of the settings. -/
def greeting (o : Options) (cfg : Settings) : Bytes :=
  if o.structured then []
  else Bytes.ofString ("Type a command, '" ++ cfg.prompt ++ "help' to list commands or '" ++
    cfg.quitWord ++ "' to leave.\n")

/-- What is printed before each read. -/
def promptBytes (s : Session) : Bytes := if s.structured then [] else Bytes.ofString s.prompt

/-- Drops the carriage returns and line ends at the end of a line. -/
def trimEnd (bs : Bytes) : Bytes := (bs.reverse.dropWhile fun b => b = 13 ∨ b = 10).reverse

/-- The output a non-empty line gives. -/
def answer (s : Session) (line : String) : Bytes :=
  if s.structured then
    match Invocation.parse line with
    | .ok inv => (s.registry.invoke inv.command inv.cursor).out
    | .error detail => Bytes.ofString (malformedText detail)
  else (s.registry.dispatch line).out

/-- Answers one line, given without its line end. -/
def respond (s : Session) (line : Bytes) : Turn :=
  match Utf8.toText? (trimEnd line) with
  | none => .fail
  | some text =>
    if text = s.quitWord then .quit
    else if text.isEmpty then .reply []
    else .reply (s.answer text)

/-- The lines of an input, each without its line end; the last one may have none. -/
def lines (input : Bytes) : List Bytes :=
  let pieces := input.foldr (fun b (acc : Bytes × List Bytes) =>
    if b = 10 then ([], acc.1 :: acc.2) else (b :: acc.1, acc.2)) ([], [])
  let all := pieces.1 :: pieces.2
  if all.getLast? = some [] then all.dropLast else all

/-- Runs a session over its lines: the output and the exit code. -/
def converse (s : Session) : List Bytes → Bytes × Nat
  | [] => (s.promptBytes, 0)
  | l :: ls =>
    match s.respond l with
    | .quit => (s.promptBytes, 0)
    | .fail => (s.promptBytes, 1)
    | .reply out =>
      let (rest, code) := s.converse ls
      (s.promptBytes ++ out ++ rest, code)

end Session

/-- How a program run ends: its exit code and its output. -/
structure Ending where
  code : Nat
  out : Bytes
  deriving DecidableEq, Repr

/-- Runs the program on its command line, the value of `ARGLINE_CONFIG`, the settings
path used when neither names one, the files it can see and its input. -/
def runProgram (args : List String) (configVar : Option String) (defaultPath : String)
    (files : String → SettingsFile) (input : Bytes) : Ending :=
  match Launch.read args configVar with
  | .usageError _ => ⟨2, []⟩
  | .help => ⟨0, Bytes.ofString (Launch.helpText configVar)⟩
  | .version => ⟨0, Bytes.ofString Launch.versionText⟩
  | .run o =>
    let path := o.config.getD defaultPath
    match Settings.load path (files path) with
    | .error _ => ⟨1, []⟩
    | .ok cfg =>
      match Session.start o cfg with
      | none => ⟨1, []⟩
      | some s =>
        let (out, code) := s.converse (Session.lines input)
        ⟨code, Session.greeting o cfg ++ out⟩

end LineCommands
