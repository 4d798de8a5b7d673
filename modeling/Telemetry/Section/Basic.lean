import Telemetry.Keyed
import Telemetry.Text.Replace

/-!
# Sections

The log engine is configured by sections: a header with the kind of the section and below it one
indented line for each entry. A section has *fields*, which have one value each and are written in
the order of their keys, and *entries*, whose order counts and whose keys may repeat; they follow
the fields. All values of a section begin in one column.

A section of the kind `file` is not written as a section: it stands for a file of its own.
-/

namespace Telemetry

/-- What a section configures. -/
inductive SectionKind where
  | service
  | input
  | filter
  | output
  | parser
  | multilineParser
  /-- A file that is written next to the configuration. -/
  | file
  /-- A kind that the log engine does not know. -/
  | other (name : String)
  deriving DecidableEq, Repr

namespace SectionKind

/-- The name in the header of a section. -/
def name : SectionKind → String
  | service => "SERVICE"
  | input => "INPUT"
  | filter => "FILTER"
  | output => "OUTPUT"
  | parser => "PARSER"
  | multilineParser => "MULTILINE_PARSER"
  | file => "OPSAGENTOUTPUTFILE"
  | other n => n

/-- The kind with a given name. -/
def ofName (n : String) : SectionKind :=
  if n = "SERVICE" then service
  else if n = "INPUT" then input
  else if n = "FILTER" then filter
  else if n = "OUTPUT" then output
  else if n = "PARSER" then parser
  else if n = "MULTILINE_PARSER" then multilineParser
  else if n = "OPSAGENTOUTPUTFILE" then file
  else other n

end SectionKind

/-- One section of the log engine's configuration. -/
structure Section where
  kind : SectionKind
  fields : Keyed String
  entries : List (String × String)

namespace Section

/-- A section without lines. -/
def new (kind : SectionKind) : Section :=
  ⟨kind, .empty, []⟩

/-- Sets a field. -/
def set (s : Section) (key value : String) : Section :=
  { s with fields := s.fields.insert key value }

/-- Adds an entry after all others. -/
def push (s : Section) (key value : String) : Section :=
  { s with entries := s.entries ++ [(key, value)] }

/-- Sets several fields, one after the other. -/
def setAll (s : Section) (fields : List (String × String)) : Section :=
  fields.foldl (fun s f => s.set f.1 f.2) s

/-- Adds several entries. -/
def pushAll (s : Section) (entries : List (String × String)) : Section :=
  { s with entries := s.entries ++ entries }

/-- Sets a field where there is a value for it. -/
def setIfSome (s : Section) (key : String) : Option String → Section
  | some value => s.set key value
  | none => s

/-- The value of a field. -/
def get? (s : Section) (key : String) : Option String :=
  s.fields.get? key

/-- A section of a kind with the given fields. -/
def ofFields (kind : SectionKind) (fields : List (String × String)) : Section :=
  (new kind).setAll fields

/-- The section that stands for a file. -/
def ofFile (name contents : String) : Section :=
  ofFields .file [("filename", name), ("contents", contents)]

/-- The name and the contents of the file that a section stands for. -/
def file? (s : Section) : Option (String × String) :=
  if s.kind = .file then some ((s.get? "filename").getD "", (s.get? "contents").getD "")
  else none

/-- All lines of a section, the fields first. -/
def lines (s : Section) : List (String × String) :=
  s.fields.entries ++ s.entries

/-- The width of the column of keys: the size of the longest key in bytes. -/
def keyWidth (s : Section) : Nat :=
  (s.lines.map (·.1.utf8ByteSize)).foldl max 0

/-- One line of a section. -/
def renderLine (width : Nat) (line : String × String) : String :=
  "    " ++ Text.padRight width line.1 ++ " " ++ line.2

/-- The text of a section: the header, a line for each field and entry, and a final line break. -/
def render (s : Section) : String :=
  "[" ++ s.kind.name ++ "]\n" ++ Text.join "\n" (s.lines.map (renderLine s.keyWidth)) ++ "\n"

end Section

end Telemetry
