import Telemetry.Pipeline.Simplify
import Telemetry.Section.Layout
import Telemetry.Section.Registry

/-!
# Files for the log engine

Each instance becomes the sections of its receiver, those of its processors in order, and a filter
that marks records with the instance; where clients extend the tag, one more filter copies their
part of it into the log name. There is one output for each exporter, which takes the tags of all
instances that send to it.
-/

namespace Telemetry

/-- The tag of the agent's own logs. -/
def selfLogTag : Tag := .ofText "ops-agent-fluent-bit"

/-- The file of the agent's own logs, in the directory of logs. -/
def selfLogFile : String := "logging-module.log"

/-- What a compilation can be asked for besides the configuration. -/
structure CompileOptions where
  /-- Whether the agent's own logs are collected. -/
  selfLogs : Bool := false
  /-- The log level of engines for which the configuration names none. -/
  defaultLogLevel : String := "info"

namespace LogInstance

/-- A component of the instance cannot be used with an engine. -/
def lacks (i : LogInstance) (role : Role) (id capability : String) : Except CompileError α :=
  .error (.missingCapability .logging role id i.pipeline capability)

/-- The sections of the receiver. -/
def receiverSections (i : LogInstance) (tag : Tag) : Except CompileError (List Section) :=
  match i.receiver.sections? tag with
  | some sections => .ok sections
  | none => i.lacks .receiver i.receiverId "fluent-bit"

/-- The sections of processors of the instance, of which the first has a given number. The number
makes the names of the parsers that processors bring along. -/
def processorSections (i : LogInstance) (tag : Tag) (number : Nat) :
    List Binding → Except CompileError (List Section)
  | [] => .ok []
  | b :: rest => do
    let uid := tag.base ++ "." ++ Text.decimal number
    let sections ← match b.processor.sections? tag uid with
      | some sections => Except.ok sections
      | none => i.lacks .processor b.id "fluent-bit"
    return sections ++ (← i.processorSections tag (number + 1) rest)

/-- The filters at the end of an instance. -/
def closingSections (i : LogInstance) (tag : Tag) (p : Platform) : List Section :=
  Filter.identity tag.routing i.pipeline i.receiverId p.hostname
    :: if tag.dynamic then Script.addLogNameFilter tag.routing else []

/-- All sections of an instance. -/
def sections (i : LogInstance) (p : Platform) : Except CompileError (List Section) := do
  let tag := i.tag
  let receiver ← i.receiverSections tag
  let processors ← i.processorSections tag 0 i.processors
  return receiver ++ processors ++ i.closingSections tag p

end LogInstance

namespace LogEngine

/-- The output for the records of some tags. -/
def outputFor (p : Platform) (tags : List Tag) : Section :=
  stackdriverOutput (Tag.alternation tags) (p.userAgent logAgent) p.outputWorkers

/-- The ids of the exporters to which any instance sends, in ascending order. -/
def exporterIds (instances : List LogInstance) : List String :=
  (Keyed.ofList ((instances.flatMap (·.exporters)).map fun id => (id, ()))).keys

/-- The tags of the instances that send to an exporter; an instance that lists it twice has its tag
there twice. -/
def tagsFor (instances : List LogInstance) (exporter : String) : List Tag :=
  instances.flatMap fun i => (i.exporters.filter (· = exporter)).map fun _ => i.tag

/-- The outputs for all exporters. -/
def outputs (p : Platform) (instances : List LogInstance) : List Section :=
  (exporterIds instances).map fun exporter => outputFor p (tagsFor instances exporter)

/-- The input for the agent's own logs. -/
def selfLogInput : Input.Tail :=
  { includePaths := [variableRef logsVariable ++ "/" ++ selfLogFile] }

/-- The input and the output for the agent's own logs. -/
def selfLogSections (p : Platform) : List Section :=
  (selfLogInput.section? selfLogTag).toList ++ [outputFor p [selfLogTag]]

/-- All sections for a configuration, before its parsers are collected. -/
def sections (c : Config) (p : Platform) (o : CompileOptions) :
    Except CompileError (List Section) := do
  let instances := (← c.logInstances .fluentBit).map (·.simplify)
  let own ← instances.mapM (·.sections p)
  return serviceSection (c.engineLogLevel o.defaultLogLevel)
    :: own.flatten
    ++ outputs p instances
    ++ if o.selfLogs then selfLogSections p else []

/-- The files for the log engine. -/
def compile (c : Config) (p : Platform) (o : CompileOptions) : Except CompileError Files := do
  let sections ← sections c p o
  let collected ← (collectParsers sections).mapError SectionError.toCompileError
  (Section.layout (mainVariables p.buffersDir p.logsDir) collected).mapError
    SectionError.toCompileError

end LogEngine

end Telemetry
