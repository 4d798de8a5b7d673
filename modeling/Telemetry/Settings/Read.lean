import Telemetry.Settings.Basic
import Telemetry.Storage.Basic
import Telemetry.Toml.Document

/-!
# Reading settings

The settings file is a TOML document with a table for each group of settings. What it does not say
has a default, and keys that are no settings do not matter. A group may also be a list, of the
values of its settings in their order.

A file is checked as it was read; where the environment is let in, the result is checked again.
-/

namespace Telemetry

/-- Why settings cannot be had from a file. -/
inductive SettingsFault where
  | invalid (e : SettingsError)
  /-- The file is there but cannot be read. -/
  | unreadable (e : StorageError)
  deriving DecidableEq, Repr

namespace Settings

open Toml (Entries Value)

/-- The entries of a group of settings with the given names. A moment says nothing about any of
them. -/
def group? (names : List String) : Value → Option Entries
  | .table _ entries => some entries
  | .list items => some (names.zip items)
  | .moment => some []
  | _ => none

/-- The text for a name, which has a default. -/
def textD (entries : Entries) (name default : String) : Option String :=
  match entries.lookup name with
  | some (.text s) => some s
  | some _ => none
  | none => some default

/-- The truth value for a name, which has a default. -/
def flagD (entries : Entries) (name : String) (default : Bool) : Option Bool :=
  match entries.lookup name with
  | some (.flag b) => some b
  | some _ => none
  | none => some default

/-- Reads the settings that concern the agent as a whole. -/
def readGeneral? (v : Value) : Option GeneralSettings := do
  let es ← group? ["log_level", "log_format", "backend_log_level", "self_logs"] v
  let d : GeneralSettings := {}
  return {
    logLevel := ← textD es "log_level" d.logLevel
    logFormat := ← textD es "log_format" d.logFormat
    backendLogLevel := ← textD es "backend_log_level" d.backendLogLevel
    selfLogs := ← flagD es "self_logs" d.selfLogs }

/-- Reads the directories of the agent. -/
def readPaths? (v : Value) : Option PathSettings := do
  let es ← group? ["logs_dir", "state_dir", "output_dir"] v
  let d : PathSettings := {}
  return {
    logsDir := ← textD es "logs_dir" d.logsDir
    stateDir := ← textD es "state_dir" d.stateDir
    outputDir := ← textD es "output_dir" d.outputDir }

/-- Reads how the agent was built. -/
def readAgent? (v : Value) : Option AgentSettings := do
  let es ← group? ["version", "build_distro", "short_name", "short_version"] v
  let d : AgentSettings := {}
  return {
    version := ← textD es "version" d.version
    buildDistro := ← textD es "build_distro" d.buildDistro
    shortName := ← textD es "short_name" d.shortName
    shortVersion := ← textD es "short_version" d.shortVersion }

/-- Reads a group that may be missing. -/
def groupD (entries : Entries) (name : String) (default : α) (read : Value → Option α) : Option α :=
  match entries.lookup name with
  | some v => read v
  | none => some default

/-- Reads settings from a text without checking them. -/
def parse (s : String) : Except SettingsError Settings :=
  let settings? : Option Settings := do
    let es ← Toml.parse? s
    return {
      general := ← groupD es "general" {} readGeneral?
      paths := ← groupD es "paths" {} readPaths?
      agent := ← groupD es "agent" {} readAgent? }
  match settings? with
  | some settings => .ok settings
  | none => .error (.malformed "not a TOML document of settings")

/-- Checks settings and gives them back. -/
def checked (s : Settings) : Except SettingsFault Settings :=
  match s.check with
  | .ok _ => .ok s
  | .error e => .error (.invalid e)

/-- The settings in the file at a path, of which the text is given, or why there is none. -/
def ofFile (path : String) : Except StorageError String → Except SettingsFault Settings
  | .error .notFound => .error (.invalid (.fileNotFound path))
  | .error e => .error (.unreadable e)
  | .ok text => do checked (← (parse text).mapError .invalid)

/-- The settings in a file, over which the environment wins. -/
def load (env : Environment) (path : String) (file : Except StorageError String) :
    Except SettingsFault Settings := do
  checked ((← ofFile path file).override env)

/-- The settings in a file, or the defaults if it is not there, over which the environment wins. -/
def loadOrDefault (env : Environment) (path : String) (file : Except StorageError String) :
    Except SettingsFault Settings := do
  let settings ← match ofFile path file with
    | .error (.invalid (.fileNotFound _)) => .ok {}
    | result => result
  checked (settings.override env)

end Settings

end Telemetry
