/-!
# TOML tables

The values of a TOML document and the rules by which tables grow. A table may be added to where it
came about: `assign?` gives a value to a key, `openTable?` and `openElement?` do what the two forms
of headers do. Nothing is ever replaced: a key that has a value already is a mistake.
-/

namespace Telemetry.Toml

/-- How a table came about, which decides what may be added to it. -/
inductive Origin where
  /-- From a header of its own, or as the whole document. -/
  | header
  /-- From a header of a table inside it. -/
  | inner
  /-- From a key with dots. -/
  | dotted
  /-- From a value between braces, which is complete. -/
  | inline
  deriving DecidableEq, Repr

/-- A value. Which number or which moment it is does not matter to any setting. -/
inductive Value where
  | text (s : String)
  | flag (b : Bool)
  | number
  /-- A date, a time of day or both. -/
  | moment
  | list (items : List Value)
  | table (origin : Origin) (entries : List (String × Value))
  /-- A list of tables with a header each, of which the last one may still grow. -/
  | tables (earlier : List Value) (last : List (String × Value))

/-- The entries of a table. -/
abbrev Entries := List (String × Value)

/-- A key, with the keys of the tables to go through. -/
structure Key where
  scope : List String
  name : String
  deriving DecidableEq, Repr

/-- Changes the value of a key, or gives it one. -/
def changeAt? (name : String) (f : Option Value → Option Value) : Entries → Option Entries
  | [] => (f none).map fun v => [(name, v)]
  | (k, v) :: rest =>
    if k = name then (f (some v)).map fun v => (k, v) :: rest
    else (changeAt? name f rest).map ((k, v) :: ·)

/-- Whether a key with dots may go into a table, or else a header. -/
def Origin.admits (byDots : Bool) : Origin → Bool
  | header => !byDots
  | inner => true
  | dotted => true
  | inline => false

/-- Changes the table at the end of a way of keys, on which missing tables are made. -/
def within? (byDots : Bool) (f : Origin → Entries → Option Entries) :
    List String → Origin → Entries → Option Entries
  | [], origin, entries => f origin entries
  | name :: way, _, entries =>
    let next := within? byDots f way
    entries |> changeAt? name fun
      | none =>
        let origin : Origin := if byDots then .dotted else .inner
        (next origin []).map (.table origin)
      | some (.table origin below) =>
        if origin.admits byDots then (next origin below).map (.table origin) else none
      | some (.tables earlier last) => (next .header last).map (.tables earlier)
      | some _ => none

/-- Gives a value to a key that has none. The table in which a key with dots ends has to come from
such keys, one without dots may not go into such a table. -/
def assign? (key : Key) (v : Value) : Origin → Entries → Option Entries :=
  key.scope |> within? true fun origin entries =>
    if (origin = .dotted) = (key.scope = []) then none
    else entries |> changeAt? key.name fun
      | none => some v
      | some _ => none

/-- Makes a table as a header does; it may have come about as the outside of another one. -/
def openTable? (key : Key) : Entries → Option Entries :=
  key.scope |> within? false (fun _ => changeAt? key.name fun
    | none => some (.table .header [])
    | some (.table .inner entries) => some (.table .header entries)
    | some _ => none) |> (· .header)

/-- Adds a table to a list of tables as a header does. -/
def openElement? (key : Key) : Entries → Option Entries :=
  key.scope |> within? false (fun _ => changeAt? key.name fun
    | none => some (.tables [] [])
    | some (.tables earlier last) => some (.tables (earlier ++ [.table .header last]) [])
    | some _ => none) |> (· .header)

end Telemetry.Toml
