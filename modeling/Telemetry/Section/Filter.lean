import Telemetry.Section.Script

/-!
# Filter sections

Filters work on the records of one pipeline instance, which they find by its routing pattern:
parsing a field, changing fields, dropping records and joining lines.
-/

namespace Telemetry.Filter

/-- The field that is parsed when a configuration names none. -/
def defaultParseKey : String := "message"

/-- A filter by the name of its plugin, for the records of one routing pattern. -/
def named (plugin routing : String) : Section :=
  .ofFields .filter [("Name", plugin), ("Match", routing)]

/-- Parses a field with the parsers of the given names; other fields stay. -/
def parse (routing key : String) (parsers : List String) (preserveKey : Bool) : Section :=
  let s := (named "parser" routing).setAll [("Key_Name", key), ("Reserve_Data", "True")]
  let s := if preserveKey then s.set "Preserve_Key" "True" else s
  s.pushAll (parsers.map fun p => ("Parser", p))

/-- The field to parse: the named one, unless the name is missing or empty. -/
def parseKey (field : Option String) : String :=
  match field with
  | some f => if f = "" then defaultParseKey else f
  | none => defaultParseKey

/-- Parses a field so that the other fields are put aside before and merged back after. -/
def parseChain (routing : String) (field : Option String) (parsers : List String)
    (preserveKey : Bool) : List Section :=
  let key := parseKey field
  Script.filter routing "parser_nest" (Script.nest key)
    ++ parse routing key parsers preserveKey
    :: Script.filter routing "parser_merge_record" Script.merge

/-- A change to the fields of a record. -/
inductive ModifyOp where
  /-- Sets a field that is missing. -/
  | add (key value : String)
  /-- Sets a field. -/
  | set (key value : String)
  /-- Gives a field a new name unless that name is taken. -/
  | rename (source target : String)
  /-- Gives a field a new name, over any field of that name. -/
  | hardRename (source target : String)
  /-- Copies a field over any field of the new name. -/
  | hardCopy (source target : String)
  /-- Removes a field. -/
  | remove (key : String)
  deriving DecidableEq, Repr

/-- The entry that asks for a change. -/
def ModifyOp.entry : ModifyOp → String × String
  | add k v => ("Add", k ++ " " ++ v)
  | set k v => ("Set", k ++ " " ++ v)
  | rename s t => ("Rename", s ++ " " ++ t)
  | hardRename s t => ("Hard_rename", s ++ " " ++ t)
  | hardCopy s t => ("Hard_copy", s ++ " " ++ t)
  | remove k => ("Remove", k)

/-- Applies changes in order. -/
def modify (routing : String) (ops : List ModifyOp) : Section :=
  (named "modify" routing).pushAll (ops.map ModifyOp.entry)

/-- Applies one change to the records for which a condition holds. -/
def modifyIf (routing condition : String) (op : ModifyOp) : Section :=
  (named "modify" routing).setAll [("Condition", condition), op.entry]

/-- The condition that a field has a value. -/
def keyEquals (key value : String) : String :=
  "Key_value_equals " ++ key ++ " " ++ value

/-- Gives `target` what a table has for the value of `source`, unless it has a value already. -/
def mapValues (routing source target : String) (removeSource : Bool)
    (table : List (String × String)) : List Section :=
  table.map fun (old, new) =>
    let s := modifyIf routing (keyEquals source old) (.add target new)
    if removeSource then s.set "Remove" source else s

/-- Gathers the fields that match a wildcard in one map, without their common head. -/
def nestFields (routing wildcard under head : String) : Section :=
  (named "nest" routing).setAll
    [("Operation", "nest"), ("Wildcard", wildcard), ("Nest_under", under), ("Remove_prefix", head)]

/-- Marks a record with the instance that it came through and the host. -/
def identity (routing pipeline receiver hostname : String) : Section :=
  modify routing [
    .add "logging.googleapis.com/logName" receiver,
    .add "logging.googleapis.com/labels.pipeline" pipeline,
    .add "agent.googleapis.com/hostname" hostname]

/-- Drops the records of which some named field matches its regular expression. -/
def exclude (routing : String) (rules : List (String × String)) : Section :=
  let s := (named "grep" routing).pushAll (rules.map fun r => ("Exclude", r.1 ++ " " ++ r.2))
  if rules.length > 1 then s.set "Logical_Op" "or" else s

/-- A rule of the machine that joins the lines of one message: in `state`, a line that matches
`regex` belongs to the message and leads to the state `next`. -/
structure LineRule where
  state : String
  regex : String
  next : String
  deriving DecidableEq, Repr

/-- A rule as it stands in a section. -/
def LineRule.render (r : LineRule) : String :=
  "\"" ++ r.state ++ "\" \"/" ++ r.regex ++ "/\" \"" ++ r.next ++ "\""

/-- The section that defines a line-joining parser. -/
def lineParser (name : String) (rules : List LineRule) : Section :=
  (Section.ofFields .multilineParser
    [("name", name), ("type", "regex"), ("flush_timeout", "1000")]).pushAll
    (rules.map fun r => ("rule", r.render))

/-- Joins lines with the parser of a name. -/
def joinLines (routing parser : String) : Section :=
  (named "multiline" routing).setAll
    [("multiline.key_content", defaultParseKey), ("multiline.parser", parser)]

end Telemetry.Filter
