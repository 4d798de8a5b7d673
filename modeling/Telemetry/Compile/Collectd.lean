import Telemetry.Compile.LogEngine

/-!
# The file for collectd

The older engine can be configured for one receiver of host metrics, one exporter and one pipeline.
If the metrics domain defines nothing, the file has the fixed beginning only.
-/

namespace Telemetry.Collectd

/-- The name of the file. -/
def fileName : String := "collectd.conf"

/-- What the file depends on besides the platform. -/
structure Settings where
  interval : Interval := defaultCollectionInterval
  /-- Whether the plugins for host metrics are loaded. -/
  hostMetrics : Bool := false
  deriving DecidableEq, Repr

/-! ## Checking -/

/-- Refuses a number of definitions. -/
def cardinality (rule : String) (found : Nat) : Except CompileError α :=
  .error (.cardinality .metrics rule found)

/-- Refuses a component by its type. -/
def unsupported (role : Role) (id typeName : String) (supported : List String) :
    Except CompileError α :=
  .error (.unsupportedType .metrics role id typeName supported)

/-- Whether the domain defines nothing that the engine would have to support. -/
def isUnused (m : Metrics) : Bool :=
  m.receivers.isEmpty && m.exporters.isEmpty && m.pipelines.isEmpty

/-- The settings that the receivers ask for; there is at most one, for host metrics. -/
def receiverSettings (m : Metrics) : Except Refusal Settings := do
  if m.receivers.size > 1 then
    (cardinality Metrics.hostmetricsRule m.receivers.size).mapError .invalid
  (checkReserved .metrics .receiver m.receivers.keys).mapError .invalid
  match m.receivers.entries with
  | [] => return {}
  | (id, .hostmetrics interval) :: _ => return ⟨← collectionInterval id interval, true⟩
  | (id, receiver) :: _ =>
    (unsupported .receiver id receiver.typeName ["hostmetrics"]).mapError .invalid

/-- Refuses all processors. -/
def checkProcessors (m : Metrics) : Except CompileError Unit := do
  checkReserved .metrics .processor m.processors.keys
  match m.processors.entries with
  | [] => return
  | (id, processor) :: _ => unsupported .processor id processor.typeName []

/-- The only type of exporters that the engine has. -/
def supportedExporter : MetricsExporter := .googleCloudMonitoring

/-- Demands one exporter of the supported type. -/
def checkExporters (m : Metrics) : Except CompileError Unit := do
  if m.exporters.size ≠ 1 then
    cardinality "exactly one metrics exporter with type 'google_cloud_monitoring' is required"
      m.exporters.size
  checkReserved .metrics .exporter m.exporters.keys
  m.exporters.entries.forM fun (id, exporter) =>
    if exporter = supportedExporter then .ok ()
    else unsupported .exporter id exporter.typeName [supportedExporter.typeName]

/-- Demands one id of a role in the list of a pipeline, and that it is defined. -/
def checkReference (role : Role) (isDefined : String → Bool) (pipeline : String)
    (listed : List String) : Except CompileError Unit :=
  match listed with
  | [id] =>
    if isDefined id then .ok () else .error (.undefinedReference .metrics role id pipeline)
  | _ =>
    cardinality ("exactly one " ++ role.name ++ " id is required in the metrics service pipeline "
      ++ role.name ++ " id list") listed.length

/-- Demands one pipeline, from the receiver to the exporter. -/
def checkPipelines (m : Metrics) : Except CompileError Unit := do
  if m.pipelines.size ≠ 1 then
    cardinality "exactly one metrics service pipeline is required" m.pipelines.size
  checkReserved .metrics .pipeline m.pipelines.keys
  m.pipelines.entries.forM fun (id, p) => do
    checkReference .receiver m.receivers.contains id p.receivers
    checkReference .exporter m.exporters.contains id p.exporters

/-- The settings for a metrics domain. -/
def settings (m : Metrics) : Except Refusal Settings :=
  if isUnused m then .ok {}
  else do
    let settings ← receiverSettings m
    (checkProcessors m).mapError .invalid
    (checkExporters m).mapError .invalid
    (checkPipelines m).mapError .invalid
    return settings

/-! ## Writing -/

/-- The part of the file that is always the same but for the directory of logs. -/
def preamble (logsDir : String) : String :=
  Text.unlines [
    "",
    "# Explicitly set hostname to \"\" to indicate the default resource.",
    "Hostname \"\"",
    "",
    "# The Stackdriver agent does not use fully qualified domain names.",
    "FQDNLookup false",
    "",
    "# Collectd processes its config in order, so this must be loaded first in order",
    "# to catch messages from other plugins during configuration.",
    "LoadPlugin syslog",
    "<Plugin \"syslog\">",
    "  LogLevel \"info\"",
    "</Plugin>",
    "",
    "LoadPlugin logfile",
    "<Plugin \"logfile\">",
    "  LogLevel \"info\"",
    "  File \"" ++ logsDir ++ "/metrics-module.log\"",
    "  Timestamp true",
    "</Plugin>",
    "",
    "LoadPlugin stackdriver_agent",
    "LoadPlugin write_gcm",
    "<Plugin \"write_gcm\">",
    "  PrettyPrintJSON false",
    "</Plugin>"]

/-- The plugins for load and processors. -/
def cpuPlugins : String :=
  Text.unlines [
    "",
    "LoadPlugin load",
    "LoadPlugin cpu",
    "<Plugin \"cpu\">",
    "  ValuesPercentage true",
    "  ReportByCpu true",
    "  ReportByState true",
    "</Plugin>"]

/-- The plugins for disks and file systems. -/
def diskPlugins : String :=
  Text.unlines [
    "",
    "LoadPlugin disk",
    "<Plugin \"disk\">",
    "</Plugin>",
    "",
    "LoadPlugin df",
    "<Plugin \"df\">",
    "  FSType \"devfs\"",
    "  IgnoreSelected true",
    "  ReportByDevice true",
    "  ValuesPercentage true",
    "</Plugin>"]

/-- The plugin for memory. -/
def memoryPlugins : String :=
  Text.unlines [
    "",
    "LoadPlugin memory",
    "<Plugin \"memory\">",
    "  ValuesPercentage true",
    "</Plugin>"]

/-- The plugins for network interfaces and connections. -/
def networkPlugins : String :=
  Text.unlines [
    "",
    "LoadPlugin interface",
    "<Plugin \"interface\">",
    "</Plugin>",
    "",
    "LoadPlugin tcpconns",
    "<Plugin \"tcpconns\">",
    "  AllPortsSummary true",
    "</Plugin>"]

/-- The plugin for swap space. -/
def swapPlugins : String :=
  Text.unlines [
    "",
    "LoadPlugin swap",
    "<Plugin \"swap\">",
    "  ValuesPercentage true",
    "</Plugin>"]

/-- The plugin for processes, and the rules by which metrics are sent. -/
def processPlugins : String :=
  Text.unlines [
    "",
    "LoadPlugin processes",
    "LoadPlugin match_regex",
    "<Plugin \"processes\">",
    "  ProcessMatch \"all\" \".*\"",
    "  Detail \"ps_cputime\"",
    "  Detail \"ps_disk_octets\"",
    "  Detail \"ps_rss\"",
    "  Detail \"ps_vm\"",
    "</Plugin>",
    "",
    "PostCacheChain \"PostCache\"",
    "<Chain \"PostCache\">",
    "  # Send all expected process metrics to the output plugin.",
    "  <Rule \"processes\">",
    "    <Match \"regex\">",
    "      Plugin \"^processes$\"",
    "      Type \"^(ps_cputime|disk_octets|ps_rss|ps_vm|fork_rate|ps_state)$\"",
    "    </Match>",
    "    <Target \"jump\">",
    "      Chain \"WriteAndStop\"",
    "    </Target>",
    "  </Rule>",
    "  # Stop processing on (do not write) all unexpected process metrics.",
    "  <Rule \"processes_exclude\">",
    "    <Match \"regex\">",
    "      Plugin \"^processes$\"",
    "    </Match>",
    "    Target \"stop\"",
    "  </Rule>",
    "  # Send all other metrics to the output plugin.",
    "  <Target \"jump\">",
    "    Chain \"WriteAndStop\"",
    "  </Target>",
    "</Chain>",
    "",
    "<Chain \"WriteAndStop\">",
    "  <Rule \"write\">",
    "    <Target \"write\">",
    "      Plugin \"write_gcm\"",
    "    </Target>",
    "  </Rule>",
    "  Target \"stop\"",
    "</Chain>"]

/-- The plugins for host metrics. -/
def hostPlugins : String :=
  cpuPlugins ++ diskPlugins ++ memoryPlugins ++ networkPlugins ++ swapPlugins ++ processPlugins

/-- The text of the file. -/
def render (s : Settings) (logsDir : String) : String :=
  "Interval " ++ s.interval.decimalSeconds ++ "\n" ++ preamble logsDir
    ++ if s.hostMetrics then hostPlugins else ""

/-- The file for collectd; it does not depend on the logging domain. -/
def compile (c : Config) (p : Platform) : Except Refusal Files := do
  let settings ← match c.metrics with
    | some m => settings m
    | none => Except.ok {}
  return .ofList [(fileName, render settings p.logsDir)]

end Telemetry.Collectd
