import Telemetry.Config.Basic
import Telemetry.Value

/-!
# Reading components

A component is read from the type that it names and the value that holds its parameters. Parameters
that the type does not have, and values of another type than a parameter's, are refused.
-/

namespace Telemetry

open Value (text? bool? port? optional? list?)

/-- Reads the parameters of a file receiver. -/
def FileSource.ofValue? (v : Value) : Option FileSource := do
  let r ← v.record? ["include_paths", "exclude_paths", "wildcard_refresh_interval",
    "record_log_file_path", "buffer_in_memory"]
  return {
    includePaths := ← r.getD "include_paths" [] (list? text?)
    excludePaths := ← r.getD "exclude_paths" [] (list? text?)
    refreshInterval := ← r.get? "wildcard_refresh_interval" text?
    recordPath := ← r.getD "record_log_file_path" false bool?
    bufferInMemory := ← r.getD "buffer_in_memory" false bool? }

/-- Reads a receiver of the logging domain. -/
def LogReceiverConfig.ofValue? (type : String) (v : Value) : Option LogReceiverConfig :=
  match type with
  | "files" => (FileSource.ofValue? v).map .files
  | "syslog" => do
    let r ← v.record? ["transport_protocol", "listen_host", "listen_port"]
    return .syslog (← r.get "transport_protocol" text?) (← r.get "listen_host" text?)
      (← r.get "listen_port" port?)
  | "tcp" => do
    let r ← v.record? ["listen_host", "listen_port", "format"]
    return .tcp (← r.get? "listen_host" text?) (← r.get? "listen_port" port?)
      (← r.get "format" text?)
  | "fluent_forward" => do
    let r ← v.record? ["listen_host", "listen_port"]
    return .forward (← r.get? "listen_host" text?) (← r.get? "listen_port" port?)
  | "windows_event_log" => do
    let r ← v.record? ["channels"]
    return .eventLog (← r.get "channels" (list? text?))
  | _ => do
    let app ← AppLog.ofTypeName? type
    return .app app (← FileSource.ofValue? v)

/-- Reads the parameters of a JSON parser. -/
def ParseJson.ofValue? (v : Value) : Option ParseJson := do
  let r ← v.record? ["field", "time_key", "time_format"]
  return {
    field := ← r.get? "field" text?
    timeKey := ← r.get? "time_key" text?
    timeFormat := ← r.get? "time_format" text? }

/-- Reads the parameters of a parser by regular expression. -/
def ParseRegex.ofValue? (v : Value) : Option ParseRegex := do
  let r ← v.record? ["field", "regex", "time_key", "time_format", "types"]
  return {
    field := ← r.get? "field" text?
    regex := ← r.get "regex" text?
    timeKey := ← r.get? "time_key" text?
    timeFormat := ← r.get? "time_format" text?
    types := .ofList (← r.getD "types" [] (Value.table? text?)) }

/-- Reads a group of line rules. -/
def LineGroup.ofValue? (v : Value) : Option LineGroup := do
  let r ← v.record? ["type", "language"]
  return ⟨← r.get "type" text?, ← r.get "language" text?⟩

/-- Reads a rule to drop records. -/
def ExcludeRule.ofValue? (v : Value) : Option ExcludeRule := do
  let r ← v.record? ["field", "regex"]
  return ⟨← r.get "field" text?, ← r.get "regex" text?⟩

/-- Reads what happens to a field. -/
def FieldChange.ofValue? (v : Value) : Option FieldChange := do
  let r ← v.record? ["move_from", "copy_from", "static_value", "default_value", "map_values",
    "remove"]
  return {
    moveFrom := ← r.get? "move_from" text?
    copyFrom := ← r.get? "copy_from" text?
    staticValue := ← r.get? "static_value" text?
    defaultValue := ← r.get? "default_value" text?
    mapValues := .ofList (← r.getD "map_values" [] (Value.table? text?))
    remove := ← r.getD "remove" false bool? }

/-- Reads a processor of the logging domain. -/
def LogProcessorConfig.ofValue? (type : String) (v : Value) : Option LogProcessorConfig :=
  match type with
  | "parse_json" => (ParseJson.ofValue? v).map .parseJson
  | "parse_regex" => (ParseRegex.ofValue? v).map .parseRegex
  | "parse_multiline" => do
    let r ← v.record? ["match_any"]
    return .parseMultiline (← r.get "match_any" (list? LineGroup.ofValue?))
  | "exclude_logs" => do
    let r ← v.record? ["match_any"]
    return .excludeLogs (← r.get "match_any" (list? ExcludeRule.ofValue?))
  | "modify_fields" => do
    let r ← v.record? ["fields"]
    return .modifyFields ⟨.ofList (← r.get "fields" (Value.table? FieldChange.ofValue?))⟩
  | _ => do
    let app ← AppLog.ofTypeName? type
    let _ ← v.record? []
    return .app app

/-- Reads an exporter of the logging domain. -/
def LogExporter.ofValue? (type : String) (v : Value) : Option LogExporter :=
  match type with
  | "google_cloud_logging" => (v.record? []).map fun _ => .googleCloudLogging
  | _ => none

/-- Reads a receiver of the metrics domain. -/
def MetricsReceiver.ofValue? (type : String) (v : Value) : Option MetricsReceiver :=
  match type with
  | "hostmetrics" => do
    let r ← v.record? ["collection_interval"]
    return .hostmetrics (← r.get? "collection_interval" text?)
  | "nginx" => do
    let r ← v.record? ["collection_interval", "stub_status_url"]
    return .nginx (← r.get? "collection_interval" text?) (← r.get? "stub_status_url" text?)
  | "otlp" => do
    let r ← v.record? ["grpc_endpoint"]
    return .otlp (← r.get? "grpc_endpoint" text?)
  | _ => none

/-- Reads a processor of the metrics domain. -/
def MetricsProcessor.ofValue? (type : String) (v : Value) : Option MetricsProcessor :=
  match type with
  | "exclude_metrics" => do
    let r ← v.record? ["metrics_pattern"]
    return .excludeMetrics (← r.get "metrics_pattern" (list? text?))
  | _ => none

/-- Reads an exporter of the metrics domain. -/
def MetricsExporter.ofValue? (type : String) (v : Value) : Option MetricsExporter :=
  match type with
  | "google_cloud_monitoring" => (v.record? []).map fun _ => .googleCloudMonitoring
  | "google_managed_prometheus" => (v.record? []).map fun _ => .googleManagedPrometheus
  | _ => none

end Telemetry
