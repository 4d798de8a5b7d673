import Telemetry.Section.Basic

/-!
# Parsers

A parser turns the text of one field into fields of the record, by a regular expression with named
groups or as JSON, and may take the time of the record from one of them. The built-in parsers bear
reserved names and stand in every generated file.
-/

namespace Telemetry

/-- How a parser reads the text. -/
inductive ParserFormat where
  | json
  | regex (expression : String)
  deriving DecidableEq, Repr

/-- The definition of a parser. -/
structure ParserDef where
  name : String
  format : ParserFormat
  /-- The field that holds the time. -/
  timeKey : Option String
  /-- How the time is written. -/
  timeFormat : Option String
  /-- The types to which fields are converted. -/
  types : Keyed String

namespace ParserDef

/-- A parser by regular expression, with the field and the format of the time if it has one. -/
def regex (name expression : String) (time : Option (String × String)) : ParserDef :=
  ⟨name, .regex expression, time.map (·.1), time.map (·.2), .empty⟩

/-- The list of type conversions, as `field:type` in the order of the fields. -/
def renderTypes (types : Keyed String) : String :=
  Text.join " " (types.entries.map fun (field, type) => field ++ ":" ++ type)

/-- The section that defines a parser. -/
def toSection (d : ParserDef) : Section :=
  let s := Section.ofFields .parser [("Name", d.name)]
  let s := match d.format with
    | .json => s.set "Format" "json"
    | .regex e => s.setAll [("Format", "regex"), ("Regex", e)]
  let s := s.setIfSome "Time_Key" d.timeKey
  let s := s.setIfSome "Time_Format" d.timeFormat
  if d.types.isEmpty then s else s.set "Types" (renderTypes d.types)

/-- The parsers that every configuration may refer to, in the order in which they are written. -/
def builtins : List ParserDef :=
  [.regex "lib:default_message_parser"
     "^(?<message>.*)$"
     none,
   .regex "lib:apache"
     "^(?<host>[^ ]*) [^ ]* (?<user>[^ ]*) \\[(?<time>[^\\]]*)\\] \"(?<method>\\S+)(?: +(?<path>[^\\\"]*?)(?: +\\S*)?)?\" (?<code>[^ ]*) (?<size>[^ ]*)(?: \"(?<referer>[^\\\"]*)\" \"(?<agent>[^\\\"]*)\")?$"
     (some ("time", "%d/%b/%Y:%H:%M:%S %z")),
   .regex "lib:apache2"
     "^(?<host>[^ ]*) [^ ]* (?<user>[^ ]*) \\[(?<time>[^\\]]*)\\] \"(?<method>\\S+)(?: +(?<path>[^ ]*) +\\S*)?\" (?<code>[^ ]*) (?<size>[^ ]*)(?: \"(?<referer>[^\\\"]*)\" \"(?<agent>.*)\")?$"
     (some ("time", "%d/%b/%Y:%H:%M:%S %z")),
   .regex "lib:apache_error"
     "^\\[[^ ]* (?<time>[^\\]]*)\\] \\[(?<level>[^\\]]*)\\](?: \\[pid (?<pid>[^\\]]*)\\])?( \\[client (?<client>[^\\]]*)\\])? (?<message>.*)$"
     none,
   .regex "lib:mongodb"
     "^(?<time>[^ ]*)\\s+(?<severity>\\w)\\s+(?<component>[^ ]+)\\s+\\[(?<context>[^\\]]+)]\\s+(?<message>.*?) *(?<ms>(\\d+))?(:?ms)?$"
     (some ("time", "%Y-%m-%dT%H:%M:%S.%L")),
   .regex "lib:nginx"
     "^(?<remote>[^ ]*) (?<host>[^ ]*) (?<user>[^ ]*) \\[(?<time>[^\\]]*)\\] \"(?<method>\\S+)(?: +(?<path>[^\\\"]*?)(?: +\\S*)?)?\" (?<code>[^ ]*) (?<size>[^ ]*)(?: \"(?<referer>[^\\\"]*)\" \"(?<agent>[^\\\"]*)\")"
     (some ("time", "%d/%b/%Y:%H:%M:%S %z")),
   .regex "lib:syslog-rfc5424"
     "^\\<(?<pri>[0-9]\x7b1,5\x7d)\\>1 (?<time>[^ ]+) (?<host>[^ ]+) (?<ident>[^ ]+) (?<pid>[-0-9]+) (?<msgid>[^ ]+) (?<extradata>(\\[(.*?)\\]|-)) (?<message>.+)$"
     (some ("time", "%Y-%m-%dT%H:%M:%S.%L%Z")),
   .regex "lib:syslog-rfc3164"
     "/^\\<(?<pri>[0-9]+)\\>(?<time>[^ ]* \x7b1,2\x7d[^ ]* [^ ]*) (?<host>[^ ]*) (?<ident>[a-zA-Z0-9_\\/\\.\\-]*)(?:\\[(?<pid>[0-9]+)\\])?(?:[^\\:]*\\:)? *(?<message>.*)$/"
     (some ("time", "%b %d %H:%M:%S"))]

/-- The names of the built-in parsers. -/
def builtinNames : List String :=
  builtins.map (·.name)

/-- Whether a name is that of a built-in parser. -/
def isBuiltin (name : String) : Bool :=
  builtinNames.contains name

end ParserDef

end Telemetry
