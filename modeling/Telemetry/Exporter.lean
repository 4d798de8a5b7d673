import Telemetry.Collector.Graph
import Telemetry.Platform

/-!
# Exporters

Where logs and metrics are sent. Exporters have no parameters; what an exporter of the collector
looks like depends on the platform only.
-/

namespace Telemetry

/-- An exporter of the logging domain. -/
inductive LogExporter where
  | googleCloudLogging
  deriving DecidableEq, Repr

/-- The name by which a configuration asks for the exporter. -/
def LogExporter.typeName : LogExporter → String
  | googleCloudLogging => "google_cloud_logging"

/-- The id of the exporter to which logging pipelines send that list none. -/
def defaultLogExporter : String := "lib:google_cloud_logging"

/-- An exporter of the metrics domain. -/
inductive MetricsExporter where
  | googleCloudMonitoring
  | googleManagedPrometheus
  deriving DecidableEq, Repr

namespace MetricsExporter

/-- The name by which a configuration asks for the exporter. -/
def typeName : MetricsExporter → String
  | googleCloudMonitoring => "google_cloud_monitoring"
  | googleManagedPrometheus => "google_managed_prometheus"

/-- The type of the collector's exporter. -/
def exporterType : MetricsExporter → ExporterType
  | googleCloudMonitoring => .cloudMonitoring
  | googleManagedPrometheus => .managedPrometheus

end MetricsExporter

/-- How the outputs of the log engine name themselves to the service. -/
def logAgent : String := "Opsforge-Logging"

/-- How the collector names itself to the services. -/
def collectorAgent : String := "Opsforge-Collector"

/-- The collector's exporter of a type. -/
def ExporterType.node (t : ExporterType) (p : Platform) : Node :=
  let agent := ("user_agent", Tree.text (p.userAgent collectorAgent))
  match t with
  | .cloudMonitoring => ⟨"googlecloud", .table [agent,
      ("metric", .table [("prefix", .text ""), ("skip_create_descriptor", .bool true)])]⟩
  | .managedPrometheus => ⟨"googlemanagedprometheus", .table [agent]⟩
  | .cloudLogging => ⟨"googlecloud", .table [agent,
      ("log", .table [("default_log_name", .text "opsforge-collector")])]⟩

end Telemetry
