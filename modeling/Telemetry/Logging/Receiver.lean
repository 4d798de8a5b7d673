import Telemetry.Logging.Processor

/-!
# Receivers of the logging domain

`LogReceiverConfig` is what a configuration can ask for. `LogReceiver` is what stands in a pipeline:
a configured receiver, or a *tail*, the file receiver into which those for files and for the logs of
known applications expand. A tail without line rules can take over those of the processor behind
it, once. What a receiver can do is asked by functions to `Option`.
-/

namespace Telemetry

/-- A receiver for which a configuration can ask. -/
inductive LogReceiverConfig where
  | files (source : FileSource)
  | syslog (transport listenHost : String) (listenPort : UInt16)
  | tcp (listenHost : Option String) (listenPort : Option UInt16) (format : String)
  /-- The forward protocol, whose clients extend the tag. -/
  | forward (listenHost : Option String) (listenPort : Option UInt16)
  | eventLog (channels : List String)
  /-- The log of a known application. -/
  | app (app : AppLog) (source : FileSource)
  deriving DecidableEq, Repr

/-- The address on which receivers listen unless another is given. -/
def defaultListenHost : String := "127.0.0.1"

/-- The port for records sent over TCP unless another is given. -/
def defaultTcpPort : UInt16 := 5170

/-- The port for the forward protocol unless another is given. -/
def defaultForwardPort : UInt16 := 24224

namespace LogReceiverConfig

/-- The name by which a configuration asks for the receiver. -/
def typeName : LogReceiverConfig → String
  | files _ => "files"
  | syslog _ _ _ => "syslog"
  | tcp _ _ _ => "tcp"
  | forward _ _ => "fluent_forward"
  | eventLog _ => "windows_event_log"
  | app a _ => a.typeName

/-- Why a receiver is refused. -/
def invalid (id parameter reason : String) : Except Refusal Unit :=
  .error (invalidLogging .receiver id parameter reason)

/-- Refuses bad parameters. -/
def check (id : String) : LogReceiverConfig → Except Refusal Unit
  | files s => s.check id true
  | syslog transport host _ =>
    if transport ≠ "tcp" ∧ transport ≠ "udp" then
      invalid id "transport_protocol" (Text.quote transport ++ " is not one of [tcp, udp]")
    else if Text.isBlankText host then invalid id "listen_host" "must not be empty"
    else .ok ()
  | tcp _ _ format =>
    if format ≠ "json" then invalid id "format" (Text.quote format ++ " is not one of [json]")
    else .ok ()
  | forward _ _ => .ok ()
  | eventLog channels =>
    if channels.isEmpty || channels.any Text.isBlankText then
      invalid id "channels" "at least one non-empty channel is required"
    else .ok ()
  | app _ s => s.check id false

/-- The port on which a receiver listens. -/
def listenPort? : LogReceiverConfig → Option UInt16
  | syslog _ _ port => some port
  | tcp _ port _ => some (port.getD defaultTcpPort)
  | forward _ port => some (port.getD defaultForwardPort)
  | _ => none

end LogReceiverConfig

/-- How the time of an event-log record is written. -/
def eventTimeRegex : String :=
  "(?<timestamp>\\d+-\\d+-\\d+ \\d+:\\d+:\\d+ [+-]\\d\x7b4\x7d)"

/-- The severities of the types of event-log records. -/
def eventSeverities : List (String × String) := [
  ("Error", "ERROR"), ("Information", "INFO"), ("Warning", "WARNING"), ("SuccessAudit", "NOTICE"),
  ("FailureAudit", "NOTICE")]

/-- The sections for the Windows event log: the input, a parser for the time, the filter that
applies it and those that map event types to severities. -/
def eventLogSections (tag : Tag) (channels : List String) : List Section :=
  let parser := tag.base ++ ".timestamp_parser"
  Input.eventLog tag channels
    :: (ParserDef.regex parser eventTimeRegex
      (some ("timestamp", "%Y-%m-%d %H:%M:%S %z"))).toSection
    :: Filter.parse tag.routing "TimeGenerated" [parser] true
    :: Filter.mapValues tag.routing "EventType" severityKey false eventSeverities

/-- A receiver in a pipeline. -/
inductive LogReceiver where
  | configured (config : LogReceiverConfig)
  /-- Reads files, and joins lines if there are rules for it. -/
  | tail (source : FileSource) (rules : List Filter.LineRule)
  deriving DecidableEq, Repr

namespace LogReceiver

/-- The name of the type of a receiver. -/
def typeName : LogReceiver → String
  | configured c => c.typeName
  | tail _ _ => "tail"

/-- The port on which a receiver listens. -/
def listenPort? : LogReceiver → Option UInt16
  | configured c => c.listenPort?
  | tail _ _ => none

/-- Whether the interval between two looks for new files has no representation. -/
def refreshOverflows : LogReceiver → Bool
  | configured (.files s) => s.refreshOverflows
  | tail s _ => s.refreshOverflows
  | _ => false

/-- Whether clients extend the tag of a receiver. -/
def hasDynamicTag : LogReceiver → Bool
  | configured (.forward _ _) => true
  | _ => false

/-- The sections for the log engine. -/
def sections? (r : LogReceiver) (tag : Tag) : Option (List Section) :=
  match r with
  | configured (.files s) => some (s.sections [] tag)
  | configured (.syslog transport host port) =>
    some (Input.syslog tag transport host port.toNat)
  | configured (.tcp host port format) =>
    some [Input.tcp tag (host.getD defaultListenHost) (port.getD defaultTcpPort).toNat format]
  | configured (.forward host port) =>
    some [Input.forward tag (host.getD defaultListenHost) (port.getD defaultForwardPort).toNat]
  | configured (.eventLog channels) => some (eventLogSections tag channels)
  | configured (.app _ _) => none
  | tail s rules => some (s.sections rules tag)

/-- The receiver pipelines for the collector, which has no line rules. -/
def pipelines? : LogReceiver → Option (List ReceiverPipeline)
  | configured (.files s) => some [s.receiverPipeline]
  | tail s [] => some [s.receiverPipeline]
  | _ => none

/-- The receiver into which one expands, and the processors that come with it. -/
def expand? : LogReceiver → Option (LogReceiver × List LogProcessor)
  | configured (.files s) => some (tail s [], [])
  | configured (.app app s) =>
    let s := if s.includePaths.isEmpty then { s with includePaths := app.defaultPaths } else s
    some (tail s [], LogProcessor.forApp app)
  | _ => none

/-- Whether a receiver can take over line rules. -/
def canAbsorb : LogReceiver → Bool
  | tail _ [] => true
  | _ => false

/-- The receiver that does the work of a processor too. -/
def absorb? (r : LogReceiver) (p : LogProcessor) : Option LogReceiver :=
  match r with
  | tail s [] => p.lineRules?.map (tail s)
  | _ => none

/-- The names of what a receiver can do. They ask whether there are sections, which does not depend
on the tag. -/
def capabilities (r : LogReceiver) : List String :=
  (if (r.sections? (.ofText "")).isSome then ["fluent-bit"] else [])
    ++ (if r.pipelines?.isSome then ["otel"] else [])
    ++ (if r.expand?.isSome then ["expand"] else [])
    ++ (if r.canAbsorb then ["merge"] else [])
    ++ (if r.hasDynamicTag then ["dynamic-tag"] else [])

end LogReceiver

end Telemetry
