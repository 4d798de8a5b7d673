import Telemetry.Text.Replace

/-!
# JSON reports

`Json.write` writes a value over several lines, each nested level two spaces further in. A record
keeps the order of its fields.
-/

namespace Telemetry.Cli

/-- A value to be written as JSON. -/
inductive Json where
  | text (s : String)
  | number (n : Nat)
  | flag (b : Bool)
  | list (items : List Json)
  | record (fields : List (String × Json))

namespace Json

/-- The hexadecimal digit of a number below sixteen. -/
def hexChar (n : Nat) : Char :=
  Nat.digitChar n

/-- The spelling of a character between quotes. -/
def charText (c : Char) : List Char :=
  if c = '"' then ['\\', '"']
  else if c = '\\' then ['\\', '\\']
  else if c = '\n' then ['\\', 'n']
  else if c = '\r' then ['\\', 'r']
  else if c = '\t' then ['\\', 't']
  else if c.toNat = 8 then ['\\', 'b']
  else if c.toNat = 12 then ['\\', 'f']
  else if c.toNat < 32 then
    ['\\', 'u', '0', '0', hexChar (c.toNat / 16), hexChar (c.toNat % 16)]
  else [c]

/-- A text between quotes. -/
def quoted (s : String) : String :=
  "\"" ++ Text.expandChars charText s ++ "\""

/-- A line break and the spaces in front of a nested level. -/
def newLine (level : Nat) : String :=
  "\n" ++ Text.spaces (2 * level)

mutual

/-- Writes a value at a nested level. -/
def writeAt (level : Nat) : Json → String
  | text s => quoted s
  | number n => Text.decimal n
  | flag true => "true"
  | flag false => "false"
  | list [] => "[]"
  | list (v :: vs) =>
    "[" ++ newLine (level + 1) ++ writeAt (level + 1) v ++ writeItems (level + 1) vs
      ++ newLine level ++ "]"
  | record [] => "\x7b\x7d"
  | record ((k, v) :: fs) =>
    "\x7b" ++ newLine (level + 1) ++ quoted k ++ ": " ++ writeAt (level + 1) v
      ++ writeFields (level + 1) fs ++ newLine level ++ "\x7d"

/-- Writes the members of a list after the first. -/
def writeItems (level : Nat) : List Json → String
  | [] => ""
  | v :: vs => "," ++ newLine level ++ writeAt level v ++ writeItems level vs

/-- Writes the fields of a record after the first. -/
def writeFields (level : Nat) : List (String × Json) → String
  | [] => ""
  | (k, v) :: fs =>
    "," ++ newLine level ++ quoted k ++ ": " ++ writeAt level v ++ writeFields level fs

end

/-- Writes a value, with a line break at the end. -/
def write (v : Json) : String :=
  writeAt 0 v ++ "\n"

/-- A list of texts. -/
def texts (ss : List String) : Json :=
  list (ss.map text)

end Json

end Telemetry.Cli
