import Telemetry.Config.Check
import Telemetry.Section.Tag

/-!
# Resolving pipelines

A service pipeline names its components by id; an *instance* of it has one of its receivers and the
components themselves. `Logging.resolve` and `Metrics.resolve` give the instances of all pipelines,
in the order of the pipeline ids and, within a pipeline, in the order in which it lists its
receivers. They fail at the first id that is not defined.
-/

namespace Telemetry

/-- A processor in a pipeline, under the id that brought it there. -/
structure Binding where
  id : String
  processor : LogProcessor

/-- A logging pipeline for one of its receivers. -/
structure LogInstance where
  pipeline : String
  receiverId : String
  receiver : LogReceiver
  processors : List Binding
  /-- The ids of the exporters to which the instance sends. -/
  exporters : List String
  engine : LogEngine

/-- The tag of an instance. -/
def LogInstance.tag (i : LogInstance) : Tag :=
  .forInstance i.pipeline i.receiverId i.receiver.hasDynamicTag

namespace Logging

/-- A pipeline lists an id that is not defined. -/
def undefined (role : Role) (id pipeline : String) : Except CompileError α :=
  .error (.undefinedReference .logging role id pipeline)

/-- The processor that a pipeline lists. A reserved id can only be that of a built-in parser. -/
def bindProcessor (l : Logging) (pipeline id : String) : Except CompileError Binding :=
  if isReserved id then
    if ParserDef.isBuiltin id then .ok ⟨id, .builtinParser id⟩
    else undefined .processor id pipeline
  else match l.processors.get? id with
    | some config => .ok ⟨id, .configured config⟩
    | none => undefined .processor id pipeline

/-- Refuses an exporter that is not defined. -/
def checkExporter (l : Logging) (pipeline id : String) : Except CompileError Unit :=
  if id = defaultLogExporter ∨ l.exporters.contains id then .ok ()
  else undefined .exporter id pipeline

/-- The exporters of a pipeline: the listed ones, or the built-in one if none is listed. -/
def exporterIds (l : Logging) (pipeline : String) (listed : List String) :
    Except CompileError (List String) :=
  if listed.isEmpty then .ok [defaultLogExporter]
  else do
    listed.forM (l.checkExporter pipeline)
    return listed

/-- The receiver that a pipeline lists. -/
def bindReceiver (l : Logging) (pipeline id : String) : Except CompileError LogReceiver :=
  match l.receivers.get? id with
  | some config => .ok (.configured config)
  | none => undefined .receiver id pipeline

/-- The instances of one pipeline. -/
def instancesOf (l : Logging) (id : String) (p : LogPipeline) :
    Except CompileError (List LogInstance) := do
  let processors ← p.processors.mapM (l.bindProcessor id)
  let exporters ← l.exporterIds id p.exporters
  p.receivers.mapM fun receiverId => do
    let receiver ← l.bindReceiver id receiverId
    return ⟨id, receiverId, receiver, processors, exporters, p.engine⟩

/-- Refuses two instances with one base tag, which is possible where ids contain dots. The list
holds the instances that are still to be looked at, `owners` those before by their base tags. -/
def checkTags (owners : List (String × LogInstance)) : List LogInstance → Except CompileError Unit
  | [] => .ok ()
  | i :: rest =>
    match owners.lookup i.tag.base with
    | some first =>
      .error (.tagCollision i.tag.base first.pipeline first.receiverId i.pipeline i.receiverId)
    | none => checkTags ((i.tag.base, i) :: owners) rest

/-- The instances of all pipelines for an engine. -/
def resolve (l : Logging) (engine : LogEngine) : Except CompileError (List LogInstance) := do
  l.checkIds
  let pipelines := l.pipelines.entries.filter (·.2.engine = engine)
  let instances ← pipelines.mapM fun (id, p) => l.instancesOf id p
  checkTags [] instances.flatten
  return instances.flatten

end Logging

/-- A metrics pipeline for one of its receivers. -/
structure MetricsInstance where
  pipeline : String
  receiverId : String
  receiver : MetricsReceiver
  processors : List (String × MetricsProcessor)
  exporterType : ExporterType

namespace Metrics

/-- The component that a pipeline lists, from the table of its role. -/
def lookUp (table : Keyed α) (role : Role) (pipeline id : String) : Except CompileError α :=
  match table.get? id with
  | some a => .ok a
  | none => .error (.undefinedReference .metrics role id pipeline)

/-- The one type of the exporters of a pipeline; cloud monitoring if there are none. -/
def exporterType (m : Metrics) (pipeline : String) (listed : List String) :
    Except CompileError ExporterType := do
  let exporters ← listed.mapM (lookUp m.exporters .exporter pipeline)
  match (exporters.map (·.exporterType)).eraseDups with
  | [] => return .cloudMonitoring
  | [t] => return t
  | ts => throw (.cardinality .metrics
      ("metrics pipeline " ++ Text.quote pipeline
        ++ " must send to exporters of a single type") ts.length)

/-- The instances of one pipeline. -/
def instancesOf (m : Metrics) (id : String) (p : MetricsPipeline) :
    Except CompileError (List MetricsInstance) := do
  let exporterType ← m.exporterType id p.exporters
  let processors ← p.processors.mapM fun processorId => do
    let processor ← lookUp m.processors .processor id processorId
    return (processorId, processor)
  p.receivers.mapM fun receiverId => do
    let receiver ← lookUp m.receivers .receiver id receiverId
    return ⟨id, receiverId, receiver, processors, exporterType⟩

/-- The instances of all pipelines. -/
def resolve (m : Metrics) : Except CompileError (List MetricsInstance) := do
  m.checkIds
  let instances ← m.pipelines.entries.mapM fun (id, p) => m.instancesOf id p
  return instances.flatten

end Metrics

namespace Config

/-- The logging instances for an engine. -/
def logInstances (c : Config) (engine : LogEngine) : Except CompileError (List LogInstance) :=
  match c.logging with
  | some l => l.resolve engine
  | none => .ok []

/-- The metrics instances. -/
def metricsInstances (c : Config) : Except CompileError (List MetricsInstance) :=
  match c.metrics with
  | some m => m.resolve
  | none => .ok []

end Config

end Telemetry
