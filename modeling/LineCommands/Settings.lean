import LineCommands.Toml.Read
import LineCommands.Registry.Basic
/-!
# Settings

A session reads its settings from a TOML file:

* `[repl]`: `prompt` (default `/`), `quit_word` (default `quit`) and `help_page_size`
  (default 10, at least 1);
* `[usage]`: the pieces of usage lines, each defaulting to its piece of `UsageStyle`;
* `[aliases]`: extra names for commands, alias to existing name.

Keys the settings do not know are ignored; a known key holding a value of the wrong type
is an error, as is a document that is not TOML. The `repl` and `usage` records may also
be given as arrays, which list their fields in order; fields left out keep their
defaults. A date or time where a record or the aliases are expected reads as a record of
one field, `$__toml_private_datetime`, holding its text. A missing file gives the
defaults.

`Settings.apply` installs the usage style and adds the aliases in name order, returning
the aliases that could not be added.
-/

namespace LineCommands

/-- The settings of a session. -/
structure Settings where
  prompt : String := "/"
  quitWord : String := "quit"
  helpPageSize : Nat := 10
  usage : UsageStyle := {}
  aliases : NameMap String := NameMap.empty

/-- What reading the settings file found. -/
inductive SettingsFile where
  /-- No file is there. -/
  | missing
  /-- The file holds this text. -/
  | text (s : String)
  /-- The file is there but cannot be read as text. -/
  | unreadable

/-- Why settings could not be loaded from the file at `path`. -/
inductive SettingsError where
  /-- The file could not be read. -/
  | unreadable (path : String)
  /-- The file is not a TOML document, or a setting has the wrong type. -/
  | malformed (path : String)
  /-- The help page size is zero. -/
  | emptyHelpPage (path : String)
  deriving DecidableEq, Repr

/-- The message of a settings error whose text is the program's own: only the page size
check has one; the others carry the text of the system or of the TOML reader. -/
def SettingsError.message? : SettingsError → Option String
  | .emptyHelpPage path =>
    some ("Configuration error: Configuration error in " ++ path ++
      ":\n  help_page_size must be at least 1")
  | _ => none

namespace Settings

/-- The fields of a record setting: a table gives them by key; an array, or an array of
tables, gives them by position, in the order the record declares them. -/
inductive Fields where
  | byKey (t : TomlTable)
  | byPosition (items : List TomlValue)

/-- The field of a record setting with key `k` at position `i`. -/
def Fields.get? : Fields → String → Nat → Option TomlValue
  | .byKey t, k, _ => t.get? k
  | .byPosition items, _, i => items[i]?

/-- A date or time read where a record or a map is expected: a record of the one field
`$__toml_private_datetime`, which holds its text. -/
def datetimeRecord (text : String) : TomlTable := [("$__toml_private_datetime", .string text)]

/-- The fields of a record-valued key, or none when the key is absent. A value that is
neither a table, an array nor a date or time is a type error. -/
def fields? (t : TomlTable) (k : String) : Except Unit (Option Fields) :=
  match t.get? k with
  | none => .ok none
  | some (.table _ entries) => .ok (some (.byKey entries))
  | some (.datetime text) => .ok (some (.byKey (datetimeRecord text)))
  | some (.array items) => .ok (some (.byPosition items))
  | some (.tableArray tables) => .ok (some (.byPosition (tables.map (.table .header))))
  | some _ => .error ()

/-- A string field, or `dflt` when it is absent. -/
def text (f : Fields) (k : String) (i : Nat) (dflt : String) : Except Unit String :=
  match f.get? k i with
  | none => .ok dflt
  | some (.string s) => .ok s
  | some _ => .error ()

/-- A count field, or `dflt` when it is absent. A negative integer is a type error. -/
def count (f : Fields) (k : String) (i : Nat) (dflt : Nat) : Except Unit Nat :=
  match f.get? k i with
  | none => .ok dflt
  | some (.integer n) => if 0 ≤ n then .ok n.toNat else .error ()
  | some _ => .error ()

/-- The usage style a `usage` record sets. -/
def usageOf (f : Fields) : Except Unit UsageStyle := do
  let d : UsageStyle := {}
  pure {
    commandPrefix := ← text f "command_prefix" 0 d.commandPrefix
    argBefore := ← text f "arg_before" 1 d.argBefore
    argAfter := ← text f "arg_after" 2 d.argAfter
    optargBefore := ← text f "optarg_before" 3 d.optargBefore
    optargAfter := ← text f "optarg_after" 4 d.optargAfter
    typeBefore := ← text f "type_before" 5 d.typeBefore
    typeAfter := ← text f "type_after" 6 d.typeAfter
  }

/-- The aliases an `aliases` table sets: every value is a command name. -/
def aliasesOf (t : TomlTable) : Except Unit (NameMap String) :=
  t.foldlM (fun m e =>
    match e.2 with
    | .string s => .ok (m.insert e.1 s)
    | _ => .error ()) NameMap.empty

/-- The settings a TOML document's root table sets. -/
def ofTable (t : TomlTable) : Except Unit Settings := do
  let d : Settings := {}
  let repl := (← fields? t "repl").getD (.byKey [])
  let usage ← match ← fields? t "usage" with
    | some u => usageOf u
    | none => pure d.usage
  let aliases ← match t.get? "aliases" with
    | none => pure d.aliases
    | some (.table _ a) => aliasesOf a
    | some (.datetime text) => aliasesOf (datetimeRecord text)
    | some _ => throw ()
  pure {
    prompt := ← text repl "prompt" 0 d.prompt
    quitWord := ← text repl "quit_word" 1 d.quitWord
    helpPageSize := ← count repl "help_page_size" 2 d.helpPageSize
    usage
    aliases
  }

/-- Reads settings from the text of the file at `path`. -/
def parse (path : String) (s : String) : Except SettingsError Settings :=
  match Toml.parse? s with
  | none => .error (.malformed path)
  | some t =>
    match ofTable t with
    | .error () => .error (.malformed path)
    | .ok cfg => if cfg.helpPageSize = 0 then .error (.emptyHelpPage path) else .ok cfg

/-- Loads settings from what the file at `path` holds: the defaults when there is no
file. -/
def load (path : String) : SettingsFile → Except SettingsError Settings
  | .missing => .ok {}
  | .text s => parse path s
  | .unreadable => .error (.unreadable path)

/-- Installs the usage style, then adds the aliases in name order; returns the
registry and the aliases that could not be added. -/
def apply (cfg : Settings) (r : Registry) : Registry × List String :=
  cfg.aliases.entries.foldl (fun (acc : Registry × List String) e =>
    let (r', added) := acc.1.addAlias e.1 e.2
    (r', if added then acc.2 else acc.2 ++ [e.1])) ({ r with style := cfg.usage }, [])

end Settings

end LineCommands
