import LineCommands.Session.Basic
/-!
# The program

Reads the command line and `ARGLINE_CONFIG`, loads the settings file (by default
`argline/config.toml` under the user's configuration directory), then runs a session on
the standard input, one line at a time: every step is `Session.respond`, and the output
is written as soon as a line is answered.
-/

namespace LineCommands.Program

/-- What the file at `path` holds: missing, text, or unreadable (a directory, or bytes
that are not UTF-8). -/
def readSettingsFile (path : String) : IO SettingsFile := do
  try
    let data ← IO.FS.readBinFile path
    match Utf8.toText? data.toList with
    | some s => pure (.text s)
    | none => pure .unreadable
  catch e =>
    match e with
    | .noFileOrDirectory .. => pure .missing
    | _ => pure .unreadable

/-- The settings path used when neither the command line nor `ARGLINE_CONFIG` names one:
under `XDG_CONFIG_HOME` when it is absolute, else under `HOME/.config`. -/
def defaultSettingsPath : IO String := do
  let home ← IO.getEnv "HOME"
  let fallback := match home with
    | some h => h ++ "/.config"
    | none => "."
  let base := match ← IO.getEnv "XDG_CONFIG_HOME" with
    | some d => if d.startsWith "/" then d else fallback
    | none => fallback
  pure (base ++ "/argline/config.toml")

/-- Writes bytes and flushes them. -/
def emit (out : IO.FS.Stream) (bs : Bytes) : IO Unit := do
  out.write (ByteArray.mk bs.toArray)
  out.flush

/-- Reads one line without its line end; none at the end of the input. -/
partial def readLine (input : IO.FS.Stream) (acc : Array UInt8) : IO (Option Bytes) := do
  let chunk ← input.read 1
  match chunk.toList with
  | [] => pure (if acc.isEmpty then none else some acc.toList)
  | 10 :: _ => pure (some acc.toList)
  | b :: _ => readLine input (acc.push b)

/-- Runs a session on the standard input; the exit code. -/
partial def converse (s : Session) (input out : IO.FS.Stream) : IO UInt32 := do
  emit out s.promptBytes
  match ← readLine input #[] with
  | none => pure 0
  | some line =>
    match s.respond line with
    | .quit => pure 0
    | .fail => pure 1
    | .reply bs =>
      emit out bs
      converse s input out

/-- Runs the program on its command line; the exit code. -/
def run (args : List String) : IO UInt32 := do
  let configVar ← IO.getEnv "ARGLINE_CONFIG"
  let out ← IO.getStdout
  let err ← IO.getStderr
  match Launch.read args configVar with
  | .usageError why =>
    err.putStr (Launch.usageErrorText why)
    pure 2
  | .help =>
    out.putStr (Launch.helpText configVar)
    pure 0
  | .version =>
    out.putStr Launch.versionText
    pure 0
  | .run o =>
    let path ← match o.config with
      | some p => pure p
      | none => defaultSettingsPath
    match Settings.load path (← readSettingsFile path) with
    | .error e =>
      err.putStrLn ("Configuration Error: " ++ e.message?.getD ("cannot load " ++ path))
      pure 1
    | .ok cfg =>
      match Session.start o cfg with
      | none =>
        err.putStrLn "Error: failed to register the built-in commands"
        pure 1
      | some s =>
        emit out (Session.greeting o cfg)
        converse s (← IO.getStdin) out

end LineCommands.Program

/-- Runs the program. -/
def main (args : List String) : IO UInt32 := LineCommands.Program.run args
