import Telemetry.Tree
import Telemetry.Text.Replace

/-!
# Collector components

A receiver, processor or exporter of the collector: its type and its tree of settings. This module
also has the processors from which pipelines are built, and the string literals of the statement
language that transforming processors run.
-/

namespace Telemetry

/-- A component of the collector. -/
structure Node where
  typeName : String
  config : Tree

namespace Node

/-- The name of an instance of a component: its type, and a suffix if there is one. -/
def instanceName (n : Node) (suffix : String) : String :=
  if suffix = "" then n.typeName else n.typeName ++ "/" ++ suffix

/-- Keeps (`include`) or drops (`exclude`) the metrics whose names match. -/
def metricsFilter (polarity matchType : String) (names : List String) : Node :=
  ⟨"filter", .table [
    ("metrics", .table [
      (polarity, .table [("match_type", .text matchType), ("metric_names", .texts names)])])]⟩

/-- Runs statements on every item of a signal. -/
def transform (signal context : String) (statements : List String) : Node :=
  ⟨"transform", .table [
    ("error_mode", .text "ignore"),
    (signal ++ "_statements", .list [
      .table [("context", .text context), ("statements", .texts statements)]])]⟩

/-- Adds what the cloud tells about the resource; what is there is kept unless `overwrite` holds. -/
def resourceDetector (overwrite : Bool) : Node :=
  let detectors := ("detectors", Tree.texts ["gcp"])
  ⟨"resourcedetection",
    .table (if overwrite then [detectors] else [detectors, ("override", .bool false)])⟩

/-- Turns cumulative sums into differences. -/
def cumulativeToDelta (names : List String) : Node :=
  ⟨"cumulativetodelta", .table [
    ("include", .table [("match_type", .text "strict"), ("metrics", .texts names)])]⟩

/-- Turns differences into rates per second. -/
def deltaToRate (names : List String) : Node :=
  ⟨"deltatorate", .table [("metrics", .texts names)]⟩

/-- Puts a domain in front of all metric names. The collector reads a dollar sign as a reference to
a variable, so the dollar signs that are meant are doubled. -/
def addDomain (domain : String) : Node :=
  ⟨"metricstransform", .table [
    ("transforms", .list [
      .table [
        ("include", .text "^(.*)$$"),
        ("match_type", .text "regexp"),
        ("action", .text "update"),
        ("new_name", .text (domain ++ "/$$\x7b1\x7d"))]])]⟩

/-- Renames metrics. -/
def renameMetrics (renames : List (String × String)) : Node :=
  ⟨"metricstransform", .table [
    ("transforms", .list (renames.map fun (old, new) =>
      .table [("include", .text old), ("action", .text "update"), ("new_name", .text new)]))]⟩

end Node

namespace Statement

/-- A character inside a string literal of the statement language. -/
def quotedChar (c : Char) : List Char :=
  if c = '\\' || c = '"' then ['\\', c] else [c]

/-- A string literal of the statement language. -/
def quote (s : String) : String :=
  String.ofList ('"' :: (s.toList.flatMap quotedChar ++ ['"']))

/-- A reference to a field of the body of a log record. -/
def bodyRef (field : String) : String :=
  "body[" ++ quote field ++ "]"

/-- A reference to an attribute of a log record. -/
def attributeRef (name : String) : String :=
  "attributes[" ++ quote name ++ "]"

end Statement

end Telemetry
