import Telemetry.Collector.Graph
import Telemetry.Interval

/-!
# Receivers of the metrics domain

Each receiver gives one or more receiver pipelines of the collector. The one for host metrics gives
two: the host itself, and the processes of the agent.
-/

namespace Telemetry

/-- Why a component of the metrics domain is refused. -/
def invalidMetrics (role : Role) (id parameter reason : String) : Refusal :=
  .invalid (.invalidParameter .metrics role id parameter reason)

/-- The shortest interval between two collections. -/
def minCollectionInterval : Interval := .ofSeconds 10

/-- The interval between two collections unless another is given. -/
def defaultCollectionInterval : Interval := .ofSeconds 60

/-- The default interval as the collector reads it. -/
def defaultIntervalText : String := "60s"

/-- The interval between two collections that a receiver asks for. -/
def collectionInterval (id : String) : Option String → Except Refusal Interval
  | none => .ok defaultCollectionInterval
  | some text =>
    let invalid (reason : String) : Except Refusal Interval :=
      .error (invalidMetrics .receiver id "collection_interval" (Text.quote text ++ reason))
    match Interval.parse text with
    | .error .overflow => .error .overflow
    | .error .malformed => invalid " is not an interval (e.g. \"60s\")"
    | .ok i =>
      if i.nanos < minCollectionInterval.nanos then
        invalid " is below the minimum threshold of \"10s\""
      else .ok i

/-- A receiver for which a configuration can ask. -/
inductive MetricsReceiver where
  | hostmetrics (interval : Option String)
  /-- The status page of an nginx server. -/
  | nginx (interval statusUrl : Option String)
  /-- Metrics sent by the OTLP protocol over gRPC. -/
  | otlp (endpoint : Option String)
  deriving DecidableEq, Repr

namespace MetricsReceiver

/-- The name by which a configuration asks for the receiver. -/
def typeName : MetricsReceiver → String
  | hostmetrics _ => "hostmetrics"
  | nginx _ _ => "nginx"
  | otlp _ => "otlp"

/-- Whether a receiver is for host metrics. -/
def isHostmetrics : MetricsReceiver → Bool
  | hostmetrics _ => true
  | _ => false

/-- Whether a text is a port number: decimal digits, possibly after a plus sign, below 2¹⁶. -/
def isPort (cs : List Char) : Bool :=
  let digits := match cs with
    | '+' :: ds => ds
    | ds => ds
  !digits.isEmpty && digits.all Char.isDigit && Interval.digitsValue digits < Nat.pow 2 16

/-- Whether a text is an address with a port: a port follows the last colon. -/
def hasPort (address : String) : Bool :=
  let cs := address.toList
  cs.contains ':' && isPort (cs.reverse.takeWhile (· ≠ ':')).reverse

/-- Refuses an address that is not one for web pages. -/
def checkUrl (id : String) : Option String → Except Refusal Unit
  | none => .ok ()
  | some url =>
    if Text.startsWith "http://" url || Text.startsWith "https://" url then .ok ()
    else .error (invalidMetrics .receiver id "stub_status_url"
      (Text.quote url ++ " is not an http(s) URL"))

/-- Refuses an address without a port. -/
def checkEndpoint (id : String) : Option String → Except Refusal Unit
  | none => .ok ()
  | some endpoint =>
    if hasPort endpoint then .ok ()
    else .error (invalidMetrics .receiver id "grpc_endpoint"
      (Text.quote endpoint ++ " is not a host:port address"))

/-- Refuses bad parameters. -/
def check (id : String) : MetricsReceiver → Except Refusal Unit
  | hostmetrics interval => (collectionInterval id interval).map fun _ => ()
  | nginx interval url => do
    let _ ← collectionInterval id interval
    checkUrl id url
  | otlp endpoint => checkEndpoint id endpoint

/-- The domain of the metrics of the system and the agent. -/
def agentDomain : String := "agent.googleapis.com"

/-- The domain of the metrics of applications. -/
def workloadDomain : String := "workload.googleapis.com"

/-- What is measured on the host. -/
def hostScrapers : List String :=
  ["cpu", "load", "memory", "disk", "filesystem", "network", "paging", "processes"]

/-- Metrics of the host that are dropped. -/
def excludedHostMetrics : List String := [
  "system.cpu.time", "system.network.dropped", "system.filesystem.inodes.usage",
  "system.paging.faults", "system.disk.operation_time", "system.processes.count"]

/-- The names under which the metrics of the host are known to the service. -/
def hostRenames : List (String × String) := [
  ("system.cpu.utilization", "cpu/utilization"),
  ("system.cpu.load_average.1m", "cpu/load_1m"),
  ("system.cpu.load_average.5m", "cpu/load_5m"),
  ("system.cpu.load_average.15m", "cpu/load_15m"),
  ("system.disk.io_time", "disk/io_time"),
  ("system.disk.operations", "disk/operation_count"),
  ("system.filesystem.usage", "disk/bytes_used"),
  ("system.filesystem.utilization", "disk/percent_used"),
  ("system.memory.usage", "memory/bytes_used"),
  ("system.memory.utilization", "memory/percent_used"),
  ("system.network.io", "interface/traffic"),
  ("system.paging.usage", "swap/bytes_used")]

/-- The processes of the agent. -/
def agentProcesses : List String := ["opsforge", "fluent-bit", "otelopscol"]

/-- The names under which the metrics of the agent's processes are known to the service. -/
def processRenames : List (String × String) := [
  ("process.cpu.time", "agent/cpu_time"),
  ("process.memory.physical_usage", "agent/memory_usage"),
  ("process.memory.virtual_usage", "agent/vm_usage")]

/-- The receiver pipeline for the host. -/
def hostPipeline (interval : String) : ReceiverPipeline :=
  { receiver := ⟨"hostmetrics", .table [
      ("collection_interval", .text interval),
      ("scrapers", .table (hostScrapers.map fun s => (s, .table [])))]⟩
    processors := .single .metrics [
      ⟨"agentmetrics", .table [("blank_label_metrics", .texts ["system.cpu.utilization"])]⟩,
      .metricsFilter "exclude" "strict" excludedHostMetrics,
      .renameMetrics hostRenames,
      .addDomain agentDomain] }

/-- The receiver pipeline for the agent's own processes. -/
def processPipeline (interval : String) : ReceiverPipeline :=
  { receiver := ⟨"hostmetrics", .table [
      ("collection_interval", .text interval),
      ("scrapers", .table [("process", .table [
        ("include", .table [
          ("match_type", .text "strict"), ("names", .texts agentProcesses)]),
        ("mute_process_name_error", .bool true)])])]⟩
    processors := .single .metrics [
      .metricsFilter "include" "strict" (processRenames.map (·.1)),
      .renameMetrics processRenames,
      .addDomain agentDomain] }

/-- The receiver pipeline for an nginx server. -/
def nginxPipeline (interval url : String) : ReceiverPipeline :=
  { receiver := ⟨"nginx", .table [
      ("collection_interval", .text interval), ("endpoint", .text url)]⟩
    processors := .single .metrics [
      ⟨"normalizesums", .table []⟩, .addDomain workloadDomain] }

/-- The receiver pipeline for sent metrics. What the senders say about the resource is kept. -/
def otlpPipeline (endpoint : String) : ReceiverPipeline :=
  { receiver := ⟨"otlp", .table [
      ("protocols", .table [("grpc", .table [("endpoint", .text endpoint)])])]⟩
    processors := .single .metrics []
    resourceDetection := .single .metrics .setIfMissing }

/-- The receiver pipelines of a receiver. -/
def pipelines : MetricsReceiver → List ReceiverPipeline
  | hostmetrics interval =>
    let text := interval.getD defaultIntervalText
    [hostPipeline text, processPipeline text]
  | nginx interval url =>
    [nginxPipeline (interval.getD defaultIntervalText) (url.getD "http://127.0.0.1/status")]
  | otlp endpoint => [otlpPipeline (endpoint.getD "0.0.0.0:4317")]

end MetricsReceiver

end Telemetry
