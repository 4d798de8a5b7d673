import Telemetry.Config.Basic

/-!
# The catalog

All types of components for which a configuration can ask, with what they can do. For components of
the logging domain this is asked of a sample of each type; which capabilities a component has does
not depend on its parameters.
-/

namespace Telemetry

/-- What is known about a type of components. -/
structure ComponentInfo where
  domain : Domain
  role : Role
  /-- The name of the type; for a built-in parser, its id. -/
  typeName : String
  capabilities : List String
  deriving DecidableEq, Repr

/-- Whether a type has a capability. -/
def ComponentInfo.has (c : ComponentInfo) (capability : String) : Bool :=
  c.capabilities.contains capability

namespace Catalog

/-- One receiver of each type of the logging domain. -/
def logReceivers : List LogReceiverConfig :=
  [.files {}, .syslog "tcp" "0.0.0.0" 5140, .tcp none none "json", .forward none none,
    .eventLog ["System"]] ++ AppLog.all.map fun app => .app app {}

/-- One processor of each type of the logging domain. -/
def logProcessors : List LogProcessorConfig :=
  [.parseJson {}, .parseRegex { regex := "" }, .parseMultiline [], .excludeLogs [],
    .modifyFields {}] ++ AppLog.all.map .app

/-- One receiver of each type of the metrics domain. -/
def metricsReceivers : List MetricsReceiver :=
  [.hostmetrics none, .nginx none none, .otlp none]

/-- The backends of a component of the metrics domain; collectd takes host metrics only. -/
def metricsCapabilities (forCollectd : Bool) : List String :=
  if forCollectd then ["otel", "collectd"] else ["otel"]

/-- Types of one role, in ascending order of their names. -/
def sorted (domain : Domain) (role : Role) (types : List (String × List String)) :
    List ComponentInfo :=
  (Keyed.ofList types).entries.map fun (name, capabilities) => ⟨domain, role, name, capabilities⟩

/-- All types, by domain, role and name. -/
def components : List ComponentInfo :=
  sorted .logging .receiver
    (logReceivers.map fun c => (c.typeName, (LogReceiver.configured c).capabilities))
  ++ sorted .logging .processor
    ((logProcessors.map fun c => (c.typeName, (LogProcessor.configured c).capabilities))
      ++ ParserDef.builtinNames.map fun n => (n, (LogProcessor.builtinParser n).capabilities))
  ++ sorted .logging .exporter
    [(LogExporter.googleCloudLogging.typeName, ["fluent-bit", "otel"])]
  ++ sorted .metrics .receiver
    (metricsReceivers.map fun r => (r.typeName, metricsCapabilities r.isHostmetrics))
  ++ sorted .metrics .processor
    [((MetricsProcessor.excludeMetrics []).typeName, metricsCapabilities false)]
  ++ sorted .metrics .exporter
    ([.googleCloudMonitoring, .googleManagedPrometheus].map fun e =>
      (MetricsExporter.typeName e, metricsCapabilities (e = .googleCloudMonitoring)))

end Catalog

end Telemetry
