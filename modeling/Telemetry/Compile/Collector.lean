import Telemetry.Compile.LogEngine

/-!
# The file for the collector

Every metrics instance, and every logging instance whose pipeline runs on the collector, becomes a
service pipeline for each receiver pipeline into which its receiver falls. The name of a service
pipeline joins the ids of pipeline and receiver, with a number if there are several. The collector
has no line rules, so that logging instances are expanded and not simplified.
-/

namespace Telemetry

/-- A service pipeline on its way into the graph. -/
structure PipelineRequest where
  domain : Domain
  name : String
  signal : Signal
  /-- Where the signal is sent if the receiver pipeline does not say so. -/
  exporterType : ExporterType
  receiver : ReceiverPipeline
  processors : List Node

namespace CollectorGraph

/-- The attribute for the name of a log. -/
def logNameAttribute : String := "gcp.log_name"

/-- The attribute for the id of a logging pipeline. -/
def pipelineAttribute : String := "logging.googleapis.com/labels.pipeline"

/-- The statement that sets an attribute of a log record to a text. -/
def setAttribute (name value : String) : String :=
  "set(" ++ Statement.attributeRef name ++ ", " ++ Statement.quote value ++ ")"

/-- The processor that marks log records with their instance. -/
def identityNode (i : LogInstance) : Node :=
  .transform "log" "log" [
    setAttribute logNameAttribute i.receiverId, setAttribute pipelineAttribute i.pipeline]

/-- The names of the service pipelines of an instance. -/
def pipelineNames (pipeline receiver : String) (count : Nat) : List String :=
  let stem := pipeline ++ "_" ++ receiver
  if count = 1 then [stem]
  else (List.range count).map fun k => stem ++ "_" ++ Text.decimal k

/-- The service pipelines of a metrics instance. -/
def metricsRequests (i : MetricsInstance) : List PipelineRequest :=
  let rps := i.receiver.pipelines
  ((pipelineNames i.pipeline i.receiverId rps.length).zip rps).map fun (name, rp) =>
    ⟨.metrics, name, .metrics, i.exporterType, rp, i.processors.flatMap (·.2.nodes)⟩

/-- The components of a processor of an instance. -/
def processorNodes (i : LogInstance) (b : Binding) : Except CompileError (List Node) :=
  match b.processor.nodes? with
  | some nodes => .ok nodes
  | none => i.lacks .processor b.id "otel"

/-- The receiver pipelines of an instance. -/
def receiverPipelines (i : LogInstance) : Except CompileError (List ReceiverPipeline) :=
  match i.receiver.pipelines? with
  | some rps => .ok rps
  | none => i.lacks .receiver i.receiverId "otel"

/-- The service pipelines of a logging instance. -/
def logRequests (i : LogInstance) : Except CompileError (List PipelineRequest) := do
  let i := i.expand
  let rps ← receiverPipelines i
  let nodes ← i.processors.mapM (processorNodes i)
  return ((pipelineNames i.pipeline i.receiverId rps.length).zip rps).map fun (name, rp) =>
    ⟨.logging, name, .logs, .cloudLogging, rp, nodes.flatten ++ [identityNode i]⟩

/-- The part of the graph that was put together so far. -/
structure Parts where
  receiverPipelines : Keyed ReceiverPipeline := .empty
  pipelines : Keyed ServicePipeline := .empty
  exporterTypes : List ExporterType := []

/-- Adds a service pipeline with its receiver pipeline; both get its name, which must be new. -/
def Parts.add (parts : Parts) (r : PipelineRequest) : Except CompileError Parts :=
  if parts.pipelines.contains r.name then
    .error (.cardinality r.domain ("collector pipeline name " ++ Text.quote r.name
      ++ " must be unique across logging and metrics") 2)
  else
    let target := (r.receiver.exporterTypes.get? r.signal).getD r.exporterType
    let rp := { r.receiver with exporterTypes := r.receiver.exporterTypes.set r.signal target }
    .ok {
      receiverPipelines := parts.receiverPipelines.insert r.name rp
      pipelines := parts.pipelines.insert r.name ⟨r.signal, r.name, r.processors⟩
      exporterTypes :=
        if parts.exporterTypes.contains target then parts.exporterTypes
        else parts.exporterTypes ++ [target] }

/-- Adds the service pipelines of an instance, if it has any. -/
def Parts.addInstance (requests : α → Except CompileError (List PipelineRequest)) (parts : Parts)
    (i : α) : Except CompileError Parts := do
  (← requests i).foldlM Parts.add parts

/-- The graph of the given parts. -/
def ofParts (c : Config) (p : Platform) (o : CompileOptions) (parts : Parts) : Graph :=
  { logLevel := c.collectorLogLevel o.defaultLogLevel
    receiverPipelines := parts.receiverPipelines
    pipelines := parts.pipelines
    exporters := fun t => if parts.exporterTypes.contains t then some (t.node p) else none }

/-- The graph for a configuration, metrics first. -/
def build (c : Config) (p : Platform) (o : CompileOptions) : Except CompileError Graph := do
  let metrics ← c.metricsInstances
  let parts ← metrics.foldlM (Parts.addInstance fun i => .ok (metricsRequests i)) {}
  let logs ← c.logInstances .collector
  let parts ← logs.foldlM (Parts.addInstance logRequests) parts
  return ofParts c p o parts

/-- The file for the collector. -/
def compile (c : Config) (p : Platform) (o : CompileOptions) : Except CompileError Files := do
  let graph ← build c p o
  let text ← graph.write.mapError GraphError.toCompileError
  return .ofList [(Graph.fileName, text)]

end CollectorGraph

end Telemetry
