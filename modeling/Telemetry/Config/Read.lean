import Telemetry.Config.Check
import Telemetry.Config.Decode
import Telemetry.Yaml.Document

/-!
# Reading a configuration

`Config.read` reads a configuration from a YAML document. Ids, references and log levels are texts,
whatever they look like; the parameters of components are values that have types. Where nothing is
written for a part of the configuration, it is as if the part were not there.
-/

namespace Telemetry

namespace Yaml.Document

/-- The entries of a mapping; nothing written means none. -/
def entries? : Document → Option (List (Document × Document))
  | mapping _ entries => some entries
  | d => if d.isBlank then some [] else none

/-- The members of a sequence; nothing written means none. -/
def items? : Document → Option (List Document)
  | sequence _ items => some items
  | d => if d.isBlank then some [] else none

/-- A list of texts. -/
def texts? (d : Document) : Option (List String) := do
  (← d.items?).mapM text?

/-- A mapping from ids; of several entries with one id the last one counts. -/
def keyed? (read : Document → Option α) (d : Document) : Option (Keyed α) := do
  let entries ← (← d.entries?).mapM fun (k, v) => do return (← k.text?, ← read v)
  return .ofList entries

/-- A mapping with keys among the given ones, none of which may repeat. -/
def fields? (names : List String) (d : Document) : Option (List (String × Document)) := do
  let fields ← (← d.entries?).mapM fun (k, v) => do return (← k.text?, v)
  if fields.all (names.contains ·.1) && (fields.map (·.1)).Nodup then some fields else none

/-- Reads a field that has a default. -/
def fieldD (fields : List (String × Document)) (name : String) (default : α)
    (read : Document → Option α) : Option α :=
  match fields.lookup name with
  | some d => read d
  | none => some default

/-- Reads something that may be missing. A plain scalar means that it is if it is empty or a
spelling of null; a tag other than that for null says that it is not. -/
def optional? (read : Document → Option α) (d : Document) : Option (Option α) :=
  match d with
  | scalar (some "tag:yaml.org,2002:null") true text => if isNull text then some none else none
  | scalar none true text => if text = "" || isNull text then some none else (read d).map some
  | d => (read d).map some

/-- Sees a mapping as a component: the type that it names, and its other entries as values. The
component may also be a sequence of the type and the parameters in their order. -/
def component? : Document → Option (String × Value)
  | mapping tag entries =>
    if isLocalTag tag then none
    else do
      let entries ← entries.mapM fun (k, v) => do return (← k.value?, v)
      let isType (e : Value × Document) : Bool := e.1.text? = some "type"
      match entries.filter isType with
      | [(_, type)] =>
        let rest ← (entries.filter (!isType ·)).mapM fun (k, v) => do return (k, ← v.value?)
        return (← type.text?, .table rest)
      | _ => none
  | sequence tag (type :: rest) =>
    if isLocalTag tag then none
    else do return (← type.text?, .list (← rest.mapM value?))
  | _ => none

/-- Reads a component. -/
def read? (read : String → Value → Option α) (d : Document) : Option α := do
  let (type, v) ← d.component?
  read type v

end Yaml.Document

open Yaml (Document)

/-- Reads the engine of a pipeline, whose name may also be written as a tag of nothing. -/
def LogEngine.ofDocument? : Document → Option LogEngine
  | .scalar tag isPlain text =>
    if Document.isLocalTag tag then
      if isPlain && (text = "" || Yaml.isNull text) then
        ofName? (String.ofList ((tag.getD "").toList.drop 1))
      else none
    else ofName? text
  | _ => none

/-- Reads a pipeline of the logging domain. -/
def LogPipeline.ofDocument? (d : Document) : Option LogPipeline := do
  let fs ← d.fields? ["receivers", "processors", "exporters", "backend"]
  return {
    receivers := ← Document.fieldD fs "receivers" [] Document.texts?
    processors := ← Document.fieldD fs "processors" [] Document.texts?
    exporters := ← Document.fieldD fs "exporters" [] Document.texts?
    engine := ← Document.fieldD fs "backend" .fluentBit LogEngine.ofDocument? }

/-- Reads a pipeline of the metrics domain. -/
def MetricsPipeline.ofDocument? (d : Document) : Option MetricsPipeline := do
  let fs ← d.fields? ["receivers", "processors", "exporters"]
  return {
    receivers := ← Document.fieldD fs "receivers" [] Document.texts?
    processors := ← Document.fieldD fs "processors" [] Document.texts?
    exporters := ← Document.fieldD fs "exporters" [] Document.texts? }

/-- Reads the service part of a domain: a log level and pipelines. -/
def serviceOfDocument? (pipeline : Document → Option α) (d : Document) :
    Option (Option String × Keyed α) := do
  let fs ← d.fields? ["log_level", "pipelines"]
  return (← Document.fieldD fs "log_level" none (Document.optional? Document.text?),
    ← Document.fieldD fs "pipelines" .empty (Document.keyed? pipeline))

/-- Reads the logging domain. -/
def Logging.ofDocument? (d : Document) : Option Logging := do
  let fs ← d.fields? ["receivers", "processors", "exporters", "service"]
  let receivers ← Document.fieldD fs "receivers" .empty
    (Document.keyed? (Document.read? LogReceiverConfig.ofValue?))
  let processors ← Document.fieldD fs "processors" .empty
    (Document.keyed? (Document.read? LogProcessorConfig.ofValue?))
  let exporters ← Document.fieldD fs "exporters" .empty
    (Document.keyed? (Document.read? LogExporter.ofValue?))
  let (logLevel, pipelines) ← Document.fieldD fs "service" (none, .empty)
    (serviceOfDocument? LogPipeline.ofDocument?)
  return { receivers, processors, exporters, logLevel, pipelines }

/-- Reads the metrics domain. -/
def Metrics.ofDocument? (d : Document) : Option Metrics := do
  let fs ← d.fields? ["receivers", "processors", "exporters", "service"]
  let receivers ← Document.fieldD fs "receivers" .empty
    (Document.keyed? (Document.read? MetricsReceiver.ofValue?))
  let processors ← Document.fieldD fs "processors" .empty
    (Document.keyed? (Document.read? MetricsProcessor.ofValue?))
  let exporters ← Document.fieldD fs "exporters" .empty
    (Document.keyed? (Document.read? MetricsExporter.ofValue?))
  let (logLevel, pipelines) ← Document.fieldD fs "service" (none, .empty)
    (serviceOfDocument? MetricsPipeline.ofDocument?)
  return { receivers, processors, exporters, logLevel, pipelines }

namespace Config

/-- Reads a configuration. -/
def ofDocument? (d : Document) : Option Config := do
  let fs ← d.fields? ["logging", "metrics"]
  return {
    logging := ← Document.fieldD fs "logging" none (Document.optional? Logging.ofDocument?)
    metrics := ← Document.fieldD fs "metrics" none (Document.optional? Metrics.ofDocument?) }

/-- Reads a configuration from a text without checking it. A text without a document is a
configuration without domains. -/
def parse? (s : String) : Option Config :=
  if Text.isBlankText s then some {}
  else do
    match ← Document.parse? s with
    | some d => ofDocument? d
    | none => return {}

/-- Checks what was read. -/
def accept : Option Config → Except Refusal Config
  | none => .error .malformed
  | some c => do
    c.check
    return c

/-- Reads a configuration from a text and checks it. -/
def read (s : String) : Except Refusal Config :=
  accept (parse? s)

end Config

end Telemetry
