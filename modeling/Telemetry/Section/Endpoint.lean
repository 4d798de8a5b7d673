import Telemetry.Section.Tag
import Telemetry.Section.Basic

/-!
# Input, output and service sections

Inputs put records under the tag of their pipeline instance; outputs take the records of all
instances that send to one exporter; the service section sets up the engine itself. Two variables
that the main file defines stand for the directories of buffers and of logs.
-/

namespace Telemetry

/-- The name of the variable for the directory of buffers. -/
def buffersVariable : String := "buffers_dir"

/-- The name of the variable for the directory of the agent's own logs. -/
def logsVariable : String := "logs_dir"

/-- A reference to a variable. -/
def variableRef (name : String) : String :=
  "$\x7b" ++ name ++ "\x7d"

/-- The variables of the main file. -/
def mainVariables (buffersDir logsDir : String) : Keyed String :=
  .ofList [(buffersVariable, buffersDir), (logsVariable, logsDir)]

namespace Input

/-- An input whose data is buffered on disk. -/
def buffered (plugin : String) : Section :=
  .ofFields .input
    [("Name", plugin), ("storage.type", "filesystem"), ("Mem_Buf_Limit", "10M")]

/-- The position database of an input. -/
def positions (tag : Tag) : String :=
  variableRef buffersVariable ++ "/" ++ tag.fileSafe

/-- What a file input reads and how. -/
structure Tail where
  includePaths : List String := []
  excludePaths : List String := []
  /-- The seconds between two looks for new files. -/
  refreshSeconds : Option Nat := none
  /-- The key under which a record gets the path of its file. -/
  pathKey : Option String := none
  /-- The line-joining parser that the input applies. -/
  lineParser : Option String := none
  bufferInMemory : Bool := false

/-- The input for files; without paths there is none. -/
def Tail.section? (t : Tail) (tag : Tag) : Option Section :=
  if t.includePaths.isEmpty then none
  else
    let s := (buffered "tail").setAll [
      ("Tag", tag.input),
      ("Path", Text.join "," t.includePaths),
      ("DB", positions tag),
      ("DB.locking", "true"),
      ("Read_from_Head", "True"),
      ("Buffer_Chunk_Size", "512k"),
      ("Buffer_Max_Size", "2M"),
      ("Key", "message"),
      ("Rotate_Wait", "30"),
      ("Skip_Long_Lines", "On")]
    let s := if t.excludePaths.isEmpty then s
      else s.set "Exclude_Path" (Text.join "," t.excludePaths)
    let s := s.setIfSome "Refresh_Interval" (t.refreshSeconds.map Text.decimal)
    let s := s.setIfSome "Path_Key" t.pathKey
    let s := s.setIfSome "multiline.parser" t.lineParser
    some (if t.bufferInMemory then s.set "storage.type" "memory" else s)

/-- The input for the syslog protocol, with a parser of its own that keeps the whole message. -/
def syslog (tag : Tag) (mode listen : String) (port : Nat) : List Section :=
  [(buffered "syslog").setAll [
      ("Tag", tag.input), ("Mode", mode), ("Listen", listen), ("Port", Text.decimal port),
      ("Parser", tag.input)],
   .ofFields .parser
    [("Name", tag.input), ("Format", "regex"), ("Regex", "^(?<message>.*)$")]]

/-- The input for records sent over TCP. -/
def tcp (tag : Tag) (listen : String) (port : Nat) (format : String) : Section :=
  (buffered "tcp").setAll [
    ("Tag", tag.input), ("Listen", listen), ("Port", Text.decimal port), ("Format", format),
    ("Chunk_Size", "512k")]

/-- The input for the forward protocol; clients extend its tag. -/
def forward (tag : Tag) (listen : String) (port : Nat) : Section :=
  (buffered "forward").setAll [
    ("Tag_Prefix", tag.input), ("Listen", listen), ("Port", Text.decimal port)]

/-- The input for the channels of the Windows event log. -/
def eventLog (tag : Tag) (channels : List String) : Section :=
  .ofFields .input [
    ("Name", "winlog"), ("Tag", tag.input), ("String_Inserts", "true"),
    ("Channels", Text.join "," channels), ("Interval_Sec", "1"), ("DB", positions tag)]

end Input

/-- The key under which the output finds the request of an access-log record. -/
def httpRequestKey : String := "logging.googleapis.com/httpRequest"

/-- The output that sends the records whose tag matches an expression to the log service. -/
def stackdriverOutput (matchRegex userAgent : String) (workers : Nat) : Section :=
  .ofFields .output [
    ("Name", "stackdriver"),
    ("Match_Regex", matchRegex),
    ("resource", "gce_instance"),
    ("http_request_key", httpRequestKey),
    ("stackdriver_agent", userAgent),
    ("Retry_Limit", "3"),
    ("tls", "On"),
    ("tls.verify", "Off"),
    ("workers", Text.decimal workers),
    ("net.connect_timeout_log_error", "False")]

/-- The section for the engine itself. -/
def serviceSection (logLevel : String) : Section :=
  .ofFields .service [
    ("Flush", "1"),
    ("Daemon", "off"),
    ("Log_Level", logLevel),
    ("HTTP_Server", "Off"),
    ("dns.resolver", "legacy"),
    ("storage.path", variableRef buffersVariable),
    ("storage.sync", "normal"),
    ("storage.checksum", "off"),
    ("storage.backlog.mem_limit", "50M"),
    ("storage.max_chunks_up", "128")]

end Telemetry
