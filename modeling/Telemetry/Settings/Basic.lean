import Telemetry.Error
import Telemetry.Platform
import Telemetry.Text.Blank

/-!
# Settings

How the agent itself is set up: where its files are, how it was built and what it tells about
itself. `Settings.check` refuses values outside their range, the first one in a fixed order;
`Settings.override` lets variables of the environment win over what was read.
-/

namespace Telemetry

/-- Settings that concern the agent as a whole. -/
structure GeneralSettings where
  /-- Which of its own log lines the compiler shows. -/
  logLevel : String := "info"
  logFormat : String := "pretty"
  /-- How much engines tell about themselves unless the configuration says. -/
  backendLogLevel : String := "info"
  /-- Whether the agent's own logs are collected. -/
  selfLogs : Bool := true
  deriving DecidableEq, Repr

/-- The directories of the agent. -/
structure PathSettings where
  logsDir : String := "/var/log/opsforge"
  stateDir : String := "/var/lib/opsforge"
  /-- Where generated files go. -/
  outputDir : String := "/run/opsforge"
  deriving DecidableEq, Repr

/-- The version of this program. -/
def programVersion : String := "0.1.0"

/-- How the agent was built. -/
structure AgentSettings where
  version : String := programVersion
  buildDistro : String := "source"
  shortName : String := "unknown"
  shortVersion : String := "unknown"
  deriving DecidableEq, Repr

/-- The settings. -/
structure Settings where
  general : GeneralSettings := {}
  paths : PathSettings := {}
  agent : AgentSettings := {}
  deriving DecidableEq, Repr

/-- The variables of the environment that are set. -/
abbrev Environment := String → Option String

namespace Settings

/-! ## Checking -/

/-- The levels of the compiler's own log lines. -/
def logLevels : List String := ["trace", "debug", "info", "warn", "error"]

/-- The formats of the compiler's own log lines. -/
def logFormats : List String := ["json", "pretty"]

/-- The levels that engines may be given. -/
def backendLogLevels : List String := ["off", "error", "warn", "info", "debug", "trace"]

/-- Demands one of several values. -/
def checkChoice (field : String) (choices : List String) (value : String) :
    Except SettingsError Unit :=
  if choices.contains value then .ok ()
  else .error (.invalidValue field ("must be one of: " ++ Text.join ", " choices))

/-- Demands what must not be empty. -/
def checkPresent (field : String) (isMissing : Bool) : Except SettingsError Unit :=
  if isMissing then .error (.invalidValue field "must not be empty") else .ok ()

/-- Refuses values outside their range. A path of white space only counts as empty, a version does
not. -/
def check (s : Settings) : Except SettingsError Unit := do
  checkChoice "general.log_level" logLevels s.general.logLevel
  checkChoice "general.log_format" logFormats s.general.logFormat
  checkChoice "general.backend_log_level" backendLogLevels s.general.backendLogLevel
  checkPresent "paths.logs_dir" (Text.isBlankText s.paths.logsDir)
  checkPresent "paths.state_dir" (Text.isBlankText s.paths.stateDir)
  checkPresent "paths.output_dir" (Text.isBlankText s.paths.outputDir)
  checkPresent "agent.version" s.agent.version.isEmpty

/-! ## The environment -/

/-- The value of a variable that is set, or else what was there. -/
def overrideText (env : Environment) (name current : String) : String :=
  (env name).getD current

/-- The truth value of a variable that is set and spells one, or else what was there. -/
def overrideFlag (env : Environment) (name : String) (current : Bool) : Bool :=
  match env name with
  | some "true" => true
  | some "false" => false
  | _ => current

/-- Lets the variables of the environment win. -/
def override (s : Settings) (env : Environment) : Settings where
  general := {
    logLevel := overrideText env "OPSFORGE_GENERAL_LOG_LEVEL" s.general.logLevel
    logFormat := overrideText env "OPSFORGE_GENERAL_LOG_FORMAT" s.general.logFormat
    backendLogLevel :=
      overrideText env "OPSFORGE_GENERAL_BACKEND_LOG_LEVEL" s.general.backendLogLevel
    selfLogs := overrideFlag env "OPSFORGE_GENERAL_SELF_LOGS" s.general.selfLogs }
  paths := {
    logsDir := overrideText env "OPSFORGE_PATHS_LOGS_DIR" s.paths.logsDir
    stateDir := overrideText env "OPSFORGE_PATHS_STATE_DIR" s.paths.stateDir
    outputDir := overrideText env "OPSFORGE_PATHS_OUTPUT_DIR" s.paths.outputDir }
  agent := {
    version := overrideText env "OPSFORGE_AGENT_VERSION" s.agent.version
    buildDistro := overrideText env "OPSFORGE_AGENT_BUILD_DISTRO" s.agent.buildDistro
    shortName := overrideText env "OPSFORGE_AGENT_SHORT_NAME" s.agent.shortName
    shortVersion := overrideText env "OPSFORGE_AGENT_SHORT_VERSION" s.agent.shortVersion }

/-! ## The platform -/

/-- The platform that the settings describe, on a host with the given name. -/
def platform (s : Settings) (hostname : String) : Platform where
  os := .linux
  hostname := hostname
  agentVersion := s.agent.version
  buildDistro := s.agent.buildDistro
  shortName := s.agent.shortName
  shortVersion := s.agent.shortVersion
  logsDir := s.paths.logsDir
  stateDir := s.paths.stateDir

end Settings

end Telemetry
