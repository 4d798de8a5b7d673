import Telemetry.Metrics.Receiver
import Telemetry.Pattern

/-!
# Processors of the metrics domain

The only processor drops metrics by patterns for their full names.
-/

namespace Telemetry

/-- A processor for which a configuration can ask. -/
inductive MetricsProcessor where
  /-- Drops the metrics whose full name matches any of the patterns. -/
  | excludeMetrics (patterns : List String)
  deriving DecidableEq, Repr

namespace MetricsProcessor

/-- The name by which a configuration asks for the processor. -/
def typeName : MetricsProcessor → String
  | excludeMetrics _ => "exclude_metrics"

/-- Refuses a pattern without the domain of a metric. -/
def checkPattern (id pattern : String) : Except Refusal Unit :=
  if pattern.toList.contains '/' then .ok ()
  else .error (invalidMetrics .processor id "metrics_pattern"
    (Text.quote pattern ++ " must start with a metric domain like \"agent.googleapis.com/\""))

/-- Refuses bad parameters. -/
def check (id : String) : MetricsProcessor → Except Refusal Unit
  | excludeMetrics [] =>
    .error (invalidMetrics .processor id "metrics_pattern" "at least one pattern is required")
  | excludeMetrics patterns => patterns.forM (checkPattern id)

/-- The regular expressions for the patterns. -/
def regexes : MetricsProcessor → List String
  | excludeMetrics patterns => patterns.map Pattern.ofGlob

/-- The components for the collector. -/
def nodes (p : MetricsProcessor) : List Node :=
  [.metricsFilter "exclude" "regexp" p.regexes]

end MetricsProcessor

end Telemetry
