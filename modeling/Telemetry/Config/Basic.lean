import Telemetry.Exporter
import Telemetry.Logging.Receiver
import Telemetry.Metrics.Processor

/-!
# The configuration

What a user writes: for each of the two domains, definitions by id of receivers, processors and
exporters, and service pipelines that refer to them. `Config.check` refuses what can be refused
without looking at the references.
-/

namespace Telemetry

/-- The engine that runs a logging pipeline. -/
inductive LogEngine where
  | fluentBit
  | collector
  deriving DecidableEq, Repr

/-- The engine that a user names. -/
def LogEngine.ofName? (s : String) : Option LogEngine :=
  if s = "fluentbit" ∨ s = "fluent-bit" ∨ s = "fluent_bit" then some .fluentBit
  else if s = "otel" then some .collector
  else none

/-- A service pipeline of the logging domain, as lists of ids. -/
structure LogPipeline where
  receivers : List String := []
  processors : List String := []
  exporters : List String := []
  engine : LogEngine := .fluentBit
  deriving DecidableEq, Repr

/-- The logging domain. -/
structure Logging where
  receivers : Keyed LogReceiverConfig := .empty
  processors : Keyed LogProcessorConfig := .empty
  exporters : Keyed LogExporter := .empty
  /-- How much the engine tells about itself. -/
  logLevel : Option String := none
  pipelines : Keyed LogPipeline := .empty

/-- A service pipeline of the metrics domain, as lists of ids. -/
structure MetricsPipeline where
  receivers : List String := []
  processors : List String := []
  exporters : List String := []
  deriving DecidableEq, Repr

/-- The metrics domain. -/
structure Metrics where
  receivers : Keyed MetricsReceiver := .empty
  processors : Keyed MetricsProcessor := .empty
  exporters : Keyed MetricsExporter := .empty
  /-- How much the collector tells about itself. -/
  logLevel : Option String := none
  pipelines : Keyed MetricsPipeline := .empty

/-- A configuration. A domain that is not mentioned has no pipelines. -/
structure Config where
  logging : Option Logging := none
  metrics : Option Metrics := none

namespace Config

/-- How much the log engine tells about itself. -/
def engineLogLevel (c : Config) (fallback : String) : String :=
  (c.logging.bind (·.logLevel)).getD fallback

/-- How much the collector tells about itself: what the metrics domain says, or else what the
logging domain says. -/
def collectorLogLevel (c : Config) (fallback : String) : String :=
  (c.metrics.bind (·.logLevel)).getD (c.engineLogLevel fallback)

end Config

/-- The number of receivers for host metrics. -/
def Metrics.hostmetricsCount (m : Metrics) : Nat :=
  m.receivers.values.countP (·.isHostmetrics)

end Telemetry
