/-!
# TOML documents

A TOML document is a table of keys to values: strings, integers, floats, booleans, dates
and times, arrays, and tables. Tables come from four places, and where a table came from
decides what may still be added to it:

* a `[header]` defines a table once;
* a header `[a.b]` also creates the tables on its way (`a`), *implicitly*; such a table
  may still be defined by its own header later;
* a dotted key `a.b = 1` creates the tables on its way, implicitly and *dotted*; dotted
  keys may add to them, headers may not define them, and dotted keys may add to no other
  table;
* an inline table `{ ... }` is complete where it is written.

An array of tables (`[[name]]`) is a list of tables; headers below it go into its last
table, dotted keys cannot enter it.

`TomlTable.descend` walks a key path from a table, creating what is missing, and applies a
change at its end; every rule above is a check on that walk.
-/

namespace LineCommands

/-- Where a table came from. -/
inductive TableOrigin where
  /-- Defined by its own header. -/
  | header
  /-- Created on the way to a header. -/
  | implicit
  /-- Created on the way to a dotted key. -/
  | dotted
  /-- Written inline. -/
  | inline
  deriving DecidableEq, Repr

/-- A TOML value. Floats are kept by their kind only; dates and times by their text. -/
inductive TomlValue where
  | string (s : String)
  | integer (i : Int)
  | float
  | boolean (b : Bool)
  /-- A date, a time or both, with the text it is written back as. -/
  | datetime (text : String)
  | array (items : List TomlValue)
  | table (origin : TableOrigin) (entries : List (String × TomlValue))
  | tableArray (tables : List (List (String × TomlValue)))
  deriving Repr, Inhabited

/-- The entries of a table. -/
abbrev TomlTable := List (String × TomlValue)

namespace TomlTable

/-- The value under a key. -/
def get? (t : TomlTable) (k : String) : Option TomlValue := (t.find? (·.1 == k)).map (·.2)

/-- Replaces the value under a key that is present. -/
def set (t : TomlTable) (k : String) (v : TomlValue) : TomlTable :=
  t.map fun e => if e.1 == k then (k, v) else e

/-- Adds a key that must be new. -/
def insertNew (t : TomlTable) (k : String) (v : TomlValue) : Except String TomlTable :=
  if (t.get? k).isSome then .error ("duplicate key " ++ k) else .ok (t ++ [(k, v)])

/-- Walks the key path from a table and applies `f` to the table at its end. Missing
tables are created with origin `fresh`; the walk fails at a value that is not a table and
at an inline table. A header walk enters any other table, and the last table of an array
of tables; a dotted walk enters only tables that dotted keys created. -/
def descend (dotted : Bool) (fresh : TableOrigin) (f : TomlTable → Except String TomlTable) :
    List String → TomlTable → Except String TomlTable
  | [], t => f t
  | k :: ks, t =>
    match t.get? k with
    | none => do
      let sub ← descend dotted fresh f ks []
      .ok (t ++ [(k, .table fresh sub)])
    | some (.table origin sub) =>
      if origin = .inline ∨ (dotted ∧ origin ≠ .dotted) then .error ("cannot extend " ++ k)
      else do
        let sub' ← descend dotted fresh f ks sub
        .ok (t.set k (.table origin sub'))
    | some (.tableArray tables) =>
      if dotted then .error ("cannot extend the array of tables " ++ k) else
      match tables.getLast? with
      | some last => do
        let last' ← descend dotted fresh f ks last
        .ok (t.set k (.tableArray (tables.dropLast ++ [last'])))
      | none => .error ("empty array of tables " ++ k)
    | some _ => .error ("cannot extend the value " ++ k)

/-- Stores a value under a dotted key path, relative to a table. -/
def assign (path : List String) (key : String) (v : TomlValue) (t : TomlTable) :
    Except String TomlTable :=
  descend true .dotted (fun sub => sub.insertNew key v) path t

/-- Defines the table a header names. A table created implicitly on the way to an
earlier header becomes defined; any other value under the name is a second definition. -/
def defineTable (path : List String) (key : String) (t : TomlTable) : Except String TomlTable :=
  descend false .implicit (fun sub =>
    match sub.get? key with
    | none => .ok (sub ++ [(key, .table .header [])])
    | some (.table .implicit entries) => .ok (sub.set key (.table .header entries))
    | some _ => .error ("table defined twice " ++ key)) path t

/-- Appends a table to the array of tables a header names. -/
def appendTable (path : List String) (key : String) (t : TomlTable) : Except String TomlTable :=
  descend false .implicit (fun sub =>
    match sub.get? key with
    | none => .ok (sub ++ [(key, .tableArray [[]])])
    | some (.tableArray tables) => .ok (sub.set key (.tableArray (tables ++ [[]])))
    | some _ => .error ("not an array of tables " ++ key)) path t

end TomlTable

end LineCommands
