import Telemetry.Collector.Node
import Telemetry.Error
import Telemetry.Section.Filter
import Telemetry.Section.Parser
import Telemetry.Text.Blank

/-!
# Parsing a field

Processors that read the text of a field as JSON or by a regular expression. For the log engine they
become a parser and the filters that apply it; for the collector they become statements with the
same effect: the fields that were read are merged into the record, and the text is dropped.
-/

namespace Telemetry

/-- Why a processor of the logging domain is refused. -/
def invalidProcessor (id parameter reason : String) : CompileError :=
  .invalidParameter .logging .processor id parameter reason

namespace Statement

/-- The statements that replace a field by what `extract` makes of it, and set the time of the
record from one of the fields if both the field and its format are known. -/
def replaceField (field extract : String) (timeKey timeFormat : Option String) : List String :=
  let parsed := "cache[\"parsed\"]"
  let time := match timeKey, timeFormat with
    | some key, some format =>
      ["set(time, Time(" ++ bodyRef key ++ ", " ++ quote format ++ ")) where " ++ bodyRef key
        ++ " != nil"]
    | _, _ => []
  ["set(" ++ parsed ++ ", " ++ extract ++ ") where IsString(" ++ bodyRef field ++ ")",
   "delete_key(body, " ++ quote field ++ ") where " ++ parsed ++ " != nil",
   "merge_maps(body, " ++ parsed ++ ", \"upsert\") where " ++ parsed ++ " != nil"] ++ time

end Statement

/-- Reads a field as JSON. -/
structure ParseJson where
  /-- The field to read; `message` if nothing is said. -/
  field : Option String := none
  timeKey : Option String := none
  timeFormat : Option String := none
  deriving DecidableEq, Repr

namespace ParseJson

/-- The field that the collector reads. -/
def bodyField (p : ParseJson) : String :=
  p.field.getD Filter.defaultParseKey

/-- The parser, under a name of its own. -/
def parser (p : ParseJson) (uid : String) : ParserDef :=
  ⟨uid, .json, p.timeKey, p.timeFormat, .empty⟩

/-- The parser and its filters. -/
def sections (p : ParseJson) (tag : Tag) (uid : String) : List Section :=
  (p.parser uid).toSection :: Filter.parseChain tag.routing p.field [uid] false

/-- The statements for the collector. -/
def statements (p : ParseJson) : List String :=
  Statement.replaceField p.bodyField ("ParseJSON(" ++ Statement.bodyRef p.bodyField ++ ")")
    p.timeKey p.timeFormat

end ParseJson

/-- Reads a field by a regular expression whose named groups become fields. -/
structure ParseRegex where
  /-- The field to read; `message` if nothing is said. -/
  field : Option String := none
  regex : String
  timeKey : Option String := none
  timeFormat : Option String := none
  /-- The types to which fields are converted. -/
  types : Keyed String := .empty

namespace ParseRegex

/-- The types to which a field can be converted. -/
def fieldTypes : List String := ["string", "integer", "bool", "float", "hex"]

/-- Refuses a field type that the log engine does not know. -/
def checkType (id field type : String) : Except CompileError Unit :=
  if fieldTypes.contains type then .ok ()
  else .error (invalidProcessor id "types"
    ("field " ++ Text.quote field ++ " has type " ++ Text.quote type ++ " which is not one of ["
      ++ Text.join ", " fieldTypes ++ "]"))

/-- Refuses bad parameters. -/
def check (p : ParseRegex) (id : String) : Except CompileError Unit :=
  if Text.isBlankText p.regex then .error (invalidProcessor id "regex" "must not be empty")
  else p.types.entries.forM fun (field, type) => checkType id field type

/-- The field that the collector reads. -/
def bodyField (p : ParseRegex) : String :=
  p.field.getD Filter.defaultParseKey

/-- The parser, under a name of its own. -/
def parser (p : ParseRegex) (uid : String) : ParserDef :=
  ⟨uid, .regex p.regex, p.timeKey, p.timeFormat, p.types⟩

/-- The parser and its filters. -/
def sections (p : ParseRegex) (tag : Tag) (uid : String) : List Section :=
  (p.parser uid).toSection :: Filter.parseChain tag.routing p.field [uid] false

/-- The expression as the collector writes it, which spells named groups with a letter more. -/
def collectorRegex (p : ParseRegex) : String :=
  Text.replace "(?<" "(?P<" p.regex

/-- The statements for the collector. -/
def statements (p : ParseRegex) : List String :=
  Statement.replaceField p.bodyField
    ("ExtractPatterns(" ++ Statement.bodyRef p.bodyField ++ ", "
      ++ Statement.quote p.collectorRegex ++ ")")
    p.timeKey p.timeFormat

end ParseRegex

end Telemetry
