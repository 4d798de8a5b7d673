import Telemetry.Collector.Node
import Telemetry.Error
import Telemetry.Yaml.Writer

/-!
# The collector graph

The collector runs service pipelines. Each reads from one receiver and passes its signal through
the processors that belong to the receiver, the processors of the pipeline itself and a global one
for resource attributes, to one exporter. `Graph.document` names every component and lays the graph
out as the document that the collector reads; the names of the processors of a pipeline are numbered
through, so that the processors of receiver and pipeline keep apart where the two have one name.
-/

namespace Telemetry

/-- A kind of data. -/
inductive Signal where
  | metrics
  | traces
  | logs
  deriving DecidableEq, Repr

/-- The name of a signal. -/
def Signal.name : Signal → String
  | metrics => "metrics"
  | traces => "traces"
  | logs => "logs"

/-- The services to which signals are sent. -/
inductive ExporterType where
  | cloudMonitoring
  | managedPrometheus
  | cloudLogging
  deriving DecidableEq, Repr

namespace ExporterType

/-- The name of an exporter type. -/
def name : ExporterType → String
  | cloudMonitoring => "cloud_monitoring"
  | managedPrometheus => "managed_prometheus"
  | cloudLogging => "cloud_logging"

/-- What tells the exporter instances of one component type apart. -/
def suffix : ExporterType → String
  | cloudMonitoring => ""
  | managedPrometheus => ""
  | cloudLogging => "logging"

end ExporterType

/-- How resource attributes are completed. -/
inductive ResourceDetection where
  /-- Detected attributes replace others. -/
  | override
  /-- Only missing attributes are added. -/
  | setIfMissing
  | none
  deriving DecidableEq, Repr

/-- Something for each signal. -/
structure PerSignal (α : Type u) where
  metrics : Option α := none
  traces : Option α := none
  logs : Option α := none

namespace PerSignal

variable {α : Type u}

/-- What there is for a signal. -/
def get? (p : PerSignal α) : Signal → Option α
  | .metrics => p.metrics
  | .traces => p.traces
  | .logs => p.logs

/-- Sets what there is for a signal. -/
def set (p : PerSignal α) (s : Signal) (a : α) : PerSignal α :=
  match s with
  | .metrics => { p with metrics := some a }
  | .traces => { p with traces := some a }
  | .logs => { p with logs := some a }

/-- Something for one signal alone. -/
def single (s : Signal) (a : α) : PerSignal α :=
  PerSignal.set {} s a

/-- The entries by the names of their signals. -/
def toList (p : PerSignal α) : List (String × α) :=
  [Signal.metrics, .traces, .logs].filterMap fun s => (p.get? s).map fun a => (s.name, a)

end PerSignal

/-- A receiver with the processors that always follow it. -/
structure ReceiverPipeline where
  receiver : Node
  /-- The processors for each signal that the receiver yields. -/
  processors : PerSignal (List Node)
  /-- Where each signal is sent; cloud monitoring if nothing is said. -/
  exporterTypes : PerSignal ExporterType := {}
  /-- How resource attributes are completed; by override if nothing is said. -/
  resourceDetection : PerSignal ResourceDetection := {}

/-- A service pipeline over a receiver pipeline. -/
structure ServicePipeline where
  signal : Signal
  receiverPipeline : String
  processors : List Node

/-- All that the collector runs. -/
structure Graph where
  logLevel : String
  receiverPipelines : Keyed ReceiverPipeline
  pipelines : Keyed ServicePipeline
  exporters : ExporterType → Option Node
  disableSelfMetrics : Bool := false
  jsonLogs : Bool := false

namespace Graph

/-- The file for the collector. -/
def fileName : String := "otel.yaml"

/-- What the collector tells about itself. -/
def telemetry (g : Graph) : Tree :=
  let metrics : Tree :=
    if g.disableSelfMetrics then .table [("level", .text "none")]
    else .table [
      ("readers", .list [
        .table [("pull", .table [("exporter", .table [("prometheus", .table [
          ("host", .text "0.0.0.0"),
          ("port", .int 20201),
          ("without_scope_info", .bool true),
          ("without_type_suffix", .bool true),
          ("without_units", .bool true)])])])]])]
  let level :=
    if g.logLevel = "" || g.logLevel = "info" then [] else [("level", Tree.text g.logLevel)]
  let encoding := if g.jsonLogs then [("encoding", Tree.text "json")] else []
  let logs := level ++ encoding
  .table (("metrics", metrics) :: (if logs.isEmpty then [] else [("logs", .table logs)]))

/-- The processor that completes resource attributes, with its name. -/
def detector? : ResourceDetection → Option (String × Node)
  | .override => some ("resourcedetection/_global_0", .resourceDetector true)
  | .setIfMissing => some ("resourcedetection/_global_1", .resourceDetector false)
  | .none => none

/-- Names processors by a stem and their numbers. -/
def numbered (stem : String) (start : Nat) : List Node → List (String × Node)
  | [] => []
  | n :: rest =>
    (n.instanceName (stem ++ "_" ++ Text.decimal start), n) :: numbered stem (start + 1) rest

/-- A service pipeline whose components have names. -/
structure NamedPipeline where
  name : String
  receiver : String × Node
  processors : List (String × Node)
  target : ExporterType
  exporter : String × Node

/-- Names the components of a pipeline. A pipeline whose receiver does not yield its signal is left
out. -/
def namePipeline? (g : Graph) (name : String) (p : ServicePipeline) :
    Except GraphError (Option NamedPipeline) :=
  match g.receiverPipelines.get? p.receiverPipeline with
  | none => .error (.unknownReceiverPipeline name p.receiverPipeline)
  | some rp =>
    match rp.processors.get? p.signal with
    | none => .ok none
    | some own =>
      let mode := (rp.resourceDetection.get? p.signal).getD .override
      let target := (rp.exporterTypes.get? p.signal).getD .cloudMonitoring
      match g.exporters target with
      | none => .error (.missingExporter target.name name)
      | some exporter =>
        .ok (some {
          name := p.signal.name ++ "/" ++ name
          receiver := (rp.receiver.instanceName p.receiverPipeline, rp.receiver)
          processors :=
            numbered p.receiverPipeline 0 own
              ++ numbered name own.length p.processors
              ++ (detector? mode).toList
          target := target
          exporter := (exporter.instanceName target.suffix, exporter) })

/-- Names the components of all pipelines, in the order of the names of the pipelines. -/
def namedPipelines (g : Graph) : Except GraphError (List NamedPipeline) := do
  let named ← g.pipelines.entries.mapM fun (name, p) => g.namePipeline? name p
  return named.filterMap id

/-- The entry of a pipeline in the service part of the document. -/
def NamedPipeline.toTree (p : NamedPipeline) : Tree :=
  .table [
    ("receivers", .texts [p.receiver.1]),
    ("processors", .texts (p.processors.map (·.1))),
    ("exporters", .texts [p.exporter.1])]

/-- A table of components by name; a later one replaces an earlier one of its name. -/
def componentTable (components : List (String × Node)) : Tree :=
  .table (components.map fun (name, n) => (name, n.config))

/-- The first pipeline for each exporter type. -/
def firstUses (pipelines : List NamedPipeline) : List NamedPipeline :=
  pipelines.foldl (fun uses p => if uses.any (·.target = p.target) then uses else uses ++ [p]) []

/-- The document that the collector reads. -/
def document (g : Graph) : Except GraphError Tree := do
  let pipelines ← g.namedPipelines
  return .table [
    ("receivers", componentTable (pipelines.map (·.receiver))),
    ("processors", componentTable (pipelines.flatMap (·.processors))),
    ("exporters", componentTable ((firstUses pipelines).map (·.exporter))),
    ("service", .table [
      ("pipelines", .table (pipelines.map fun p => (p.name, p.toTree))),
      ("telemetry", g.telemetry)])]

/-- The text of the document. -/
def write (g : Graph) : Except GraphError String := do
  return Yaml.write (← g.document)

end Graph

end Telemetry
