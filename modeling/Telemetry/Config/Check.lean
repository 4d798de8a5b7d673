import Telemetry.Config.Basic

/-!
# Checking a configuration

`Config.check` refuses a configuration by the first rule that it violates. The rules come in a fixed
order: reserved ids by role, log levels, the number of receivers for host metrics, the parameters of
receivers and processors in the order of their ids, and ports.
-/

namespace Telemetry

/-- Refuses the first id of a list that is reserved for built-in components. -/
def checkReserved (domain : Domain) (role : Role) (ids : List String) : Except CompileError Unit :=
  match ids.find? isReserved with
  | some id => .error (.reservedId domain role id)
  | none => .ok ()

/-- Refuses a log level that is not among the allowed ones. -/
def checkLogLevel (domain : Domain) (allowed : List String) :
    Option String → Except CompileError Unit
  | none => .ok ()
  | some level =>
    if allowed.contains level then .ok ()
    else .error (.invalidParameter domain .service "service" "log_level"
      (Text.quote level ++ " must be one of [" ++ Text.join ", " allowed ++ "]"))

namespace Logging

/-- The log levels of the log engine. -/
def logLevels : List String := ["error", "warn", "info", "debug", "trace"]

/-- Refuses reserved ids. -/
def checkIds (l : Logging) : Except CompileError Unit := do
  checkReserved .logging .receiver l.receivers.keys
  checkReserved .logging .processor l.processors.keys
  checkReserved .logging .exporter l.exporters.keys
  checkReserved .logging .pipeline l.pipelines.keys

/-- Refuses two receivers that listen on one port. The list holds the receivers that are still to be
looked at, `owners` the ports of those before, with their ids. -/
def checkPorts (owners : List (UInt16 × String)) :
    List (String × LogReceiverConfig) → Except CompileError Unit
  | [] => .ok ()
  | (id, receiver) :: rest =>
    match receiver.listenPort? with
    | none => checkPorts owners rest
    | some port =>
      match owners.lookup port with
      | some first => .error (.portConflict port.toNat first id)
      | none => checkPorts ((port, id) :: owners) rest

/-- Refuses the domain by the first rule that it violates. -/
def check (l : Logging) : Except Refusal Unit := do
  l.checkIds.mapError .invalid
  (checkLogLevel .logging logLevels l.logLevel).mapError .invalid
  l.receivers.entries.forM fun (id, receiver) => receiver.check id
  l.processors.entries.forM fun (id, processor) => (processor.check id).mapError .invalid
  (checkPorts [] l.receivers.entries).mapError .invalid

end Logging

namespace Metrics

/-- The log levels of the collector. -/
def logLevels : List String := ["error", "warn", "info", "debug"]

/-- Refuses reserved ids. -/
def checkIds (m : Metrics) : Except CompileError Unit := do
  checkReserved .metrics .receiver m.receivers.keys
  checkReserved .metrics .processor m.processors.keys
  checkReserved .metrics .exporter m.exporters.keys
  checkReserved .metrics .pipeline m.pipelines.keys

/-- The rule that there is one receiver for host metrics. -/
def hostmetricsRule : String :=
  "at most one metrics receiver with type \"hostmetrics\" is allowed"

/-- Refuses more than one receiver for host metrics. -/
def checkHostmetrics (m : Metrics) : Except CompileError Unit :=
  if m.hostmetricsCount > 1 then
    .error (.cardinality .metrics hostmetricsRule m.hostmetricsCount)
  else .ok ()

/-- Refuses the domain by the first rule that it violates. -/
def check (m : Metrics) : Except Refusal Unit := do
  m.checkIds.mapError .invalid
  (checkLogLevel .metrics logLevels m.logLevel).mapError .invalid
  m.checkHostmetrics.mapError .invalid
  m.receivers.entries.forM fun (id, receiver) => receiver.check id
  m.processors.entries.forM fun (id, processor) => processor.check id

end Metrics

/-- Refuses a configuration by the first rule that it violates, logging before metrics. -/
def Config.check (c : Config) : Except Refusal Unit := do
  (c.logging.toList).forM (·.check)
  (c.metrics.toList).forM (·.check)

end Telemetry
