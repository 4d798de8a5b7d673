import Telemetry.Text.Replace

/-!
# Domains, roles and backends

A configuration has two domains, logging and metrics. In each, components play roles in pipelines,
and the pipelines are compiled for backends.
-/

namespace Telemetry

/-- What is collected. -/
inductive Domain where
  | logging
  | metrics
  deriving DecidableEq, Repr

/-- The name of a domain. -/
def Domain.name : Domain → String
  | logging => "logging"
  | metrics => "metrics"

/-- The domain with a name. -/
def Domain.ofName? (s : String) : Option Domain :=
  [logging, metrics].find? (·.name = s)

/-- What a definition is in its domain. -/
inductive Role where
  | receiver
  | processor
  | exporter
  | pipeline
  /-- The service part of a domain itself. -/
  | service
  deriving DecidableEq, Repr

namespace Role

/-- The name of a role. -/
def name : Role → String
  | receiver => "receiver"
  | processor => "processor"
  | exporter => "exporter"
  | pipeline => "pipeline"
  | service => "service"

/-- The name of the definitions of a role. -/
def plural (r : Role) : String :=
  r.name ++ "s"

end Role

/-- A program for which configuration files are generated. -/
inductive Backend where
  /-- The log engine, configured by sections. -/
  | fluentBit
  /-- The collector of metrics and logs, configured by a YAML document. -/
  | collector
  /-- The older engine for host metrics. -/
  | collectd
  deriving DecidableEq, Repr

namespace Backend

/-- The backends in the order in which they are checked. -/
def all : List Backend := [fluentBit, collector, collectd]

/-- The name of a backend. -/
def name : Backend → String
  | fluentBit => "fluent-bit"
  | collector => "otel"
  | collectd => "collectd"

/-- The name of a backend where names are written in one word with underscores. -/
def snakeName : Backend → String
  | fluentBit => "fluent_bit"
  | collector => "otel"
  | collectd => "collectd"

/-- The main file that is generated for a backend. -/
def mainFile : Backend → String
  | fluentBit => "fluent_bit_main.conf"
  | collector => "otel.yaml"
  | collectd => "collectd.conf"

/-- The backend that a user names. -/
def ofName? (s : String) : Option Backend :=
  if s = "fluentbit" ∨ s = "fluent-bit" ∨ s = "fluent_bit" then some fluentBit
  else if s = "otel" then some collector
  else if s = "collectd" then some collectd
  else none

end Backend

/-- What ids of built-in components begin with; user-defined ids must not. -/
def reservedHead : String := "lib:"

/-- Whether an id is reserved for built-in components. -/
def isReserved (id : String) : Bool :=
  Text.startsWith reservedHead id

end Telemetry
