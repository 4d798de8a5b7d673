import Telemetry.Collector.Graph
import Telemetry.Interval
import Telemetry.Section.Endpoint
import Telemetry.Section.Script
import Telemetry.Section.Filter
import Telemetry.Text.Blank

/-!
# Log files

What is read by the receivers for files, and what becomes of it: sections of the log engine,
possibly with rules that join lines, or a receiver of the collector.
-/

namespace Telemetry

/-- The record key for the severity of a log entry. -/
def severityKey : String := "logging.googleapis.com/severity"

/-- The record key for the path of a log file. -/
def filePathKey : String := "agent.googleapis.com/log_file_path"

/-- Why a component of the logging domain is refused. -/
def invalidLogging (role : Role) (id parameter reason : String) : Refusal :=
  .invalid (.invalidParameter .logging role id parameter reason)

/-- The log files to read and how. -/
structure FileSource where
  includePaths : List String := []
  excludePaths : List String := []
  /-- The interval between two looks for new files, as written by the user. -/
  refreshInterval : Option String := none
  /-- Whether records get the path of their file. -/
  recordPath : Bool := false
  bufferInMemory : Bool := false
  deriving DecidableEq, Repr

namespace FileSource

/-- Refuses a bad interval between two looks for new files. -/
def checkInterval (id : String) : Option String → Except Refusal Unit
  | none => .ok ()
  | some text =>
    let refused := invalidLogging .receiver id "wildcard_refresh_interval"
      (Text.quote text ++ " is not an interval of at least 1s")
    match Interval.parse text with
    | .ok i => if 1 ≤ i.seconds then .ok () else .error refused
    | .error .malformed => .error refused
    | .error .overflow => .error .overflow

/-- Refuses bad parameters; `pathsRequired` says that there is no default for the paths. -/
def check (s : FileSource) (id : String) (pathsRequired : Bool) : Except Refusal Unit :=
  if pathsRequired && s.includePaths.isEmpty then
    .error (invalidLogging .receiver id "include_paths" "at least one path is required")
  else if s.includePaths.any Text.isBlankText then
    .error (invalidLogging .receiver id "include_paths" "paths must not be empty")
  else checkInterval id s.refreshInterval

/-- The interval between two looks for new files. -/
def refresh (s : FileSource) : Option (Except IntervalFault Interval) :=
  s.refreshInterval.map Interval.parse

/-- The whole seconds between two looks for new files, where the interval can be read. -/
def refreshSeconds (s : FileSource) : Option Nat :=
  match s.refresh with
  | some (.ok i) => some i.seconds
  | _ => none

/-- Whether the interval between two looks for new files has no representation. -/
def refreshOverflows (s : FileSource) : Bool :=
  match s.refresh with
  | some (.error .overflow) => true
  | _ => false

/-- The input section for the files. -/
def input (s : FileSource) (lineParser : Option String) : Input.Tail :=
  { includePaths := s.includePaths
    excludePaths := s.excludePaths
    refreshSeconds := s.refreshSeconds
    pathKey := if s.recordPath then some filePathKey else none
    lineParser := lineParser
    bufferInMemory := s.bufferInMemory }

/-- The sections for the files. With line rules, the input joins lines itself, because a filter sees
only one chunk of input at a time; it then leaves the text under another key and with its last line
end, and two filters put that right. -/
def sections (s : FileSource) (rules : List Filter.LineRule) (tag : Tag) : List Section :=
  if rules.isEmpty then ((s.input none).section? tag).toList
  else
    let parser := "multiline." ++ tag.base
    Filter.lineParser parser rules
      :: Filter.modify tag.routing [.rename "log" "message"]
      :: Script.stripNewlineFilter tag.routing
      ++ ((s.input (some parser)).section? tag).toList

/-- The step that moves the text of a line to where the filters of pipelines expect it. -/
def moveBody : Tree :=
  .table [("id", .text "body"), ("type", .text "move"), ("from", .text "body"),
    ("to", .text "body.message")]

/-- The step that moves the path of the file to its attribute. -/
def movePath : Tree :=
  .table [("id", .text "record_log_file_path"), ("type", .text "move"),
    ("from", .text "attributes[\"log.file.path\"]"),
    ("to", .text ("attributes[\"" ++ filePathKey ++ "\"]"))]

/-- The settings of the collector's receiver for the files. -/
def nodeConfig (s : FileSource) : Tree :=
  let poll := match s.refreshInterval with
    | some text => [("poll_interval", Tree.text text)]
    | none => []
  let path := if s.recordPath then [("include_file_path", Tree.bool true)] else []
  .table ([
    ("include", .texts s.includePaths),
    ("exclude", .texts s.excludePaths),
    ("start_at", .text "beginning"),
    ("include_file_name", .bool false),
    ("preserve_leading_whitespaces", .bool true),
    ("preserve_trailing_whitespaces", .bool true),
    ("operators", .list (moveBody :: if s.recordPath then [movePath] else []))]
    ++ poll ++ path)

/-- The collector's receiver pipeline for the files. -/
def receiverPipeline (s : FileSource) : ReceiverPipeline :=
  { receiver := ⟨"filelog", s.nodeConfig⟩
    processors := .single .logs []
    exporterTypes := .single .logs .cloudLogging }

end FileSource

end Telemetry
