import Telemetry.Cli.Run

/-!
# The program

Runs the command line on the disk.
-/

namespace Telemetry.Cli

/-- Sees an error of the system as one of storage. -/
def storageErrorOf : IO.Error → StorageError
  | .noFileOrDirectory .. => .notFound
  | .alreadyExists .. => .occupied
  | .inappropriateType _ code _ => if code = 21 then .isFolder else .notFolder
  | e => .other (toString e)

/-- Does something on the disk. -/
def onDisk (action : IO α) : IO (Except StorageError α) :=
  action.toBaseIO >>= fun
    | .ok a => pure (.ok a)
    | .error e => pure (.error (storageErrorOf e))

instance : Storage IO where
  readText path := onDisk (IO.FS.readFile path)
  makeFolder path := onDisk (IO.FS.createDirAll path)
  writeText folder name text := onDisk (IO.FS.writeFile (folder ++ "/" ++ name) text)

/-- The variables of the environment that the program knows. -/
def variableNames : List String := [
  "OPSFORGE_GENERAL_LOG_LEVEL", "OPSFORGE_GENERAL_LOG_FORMAT",
  "OPSFORGE_GENERAL_BACKEND_LOG_LEVEL", "OPSFORGE_GENERAL_SELF_LOGS", "OPSFORGE_PATHS_LOGS_DIR",
  "OPSFORGE_PATHS_STATE_DIR", "OPSFORGE_PATHS_OUTPUT_DIR", "OPSFORGE_AGENT_VERSION",
  "OPSFORGE_AGENT_BUILD_DISTRO", "OPSFORGE_AGENT_SHORT_NAME", "OPSFORGE_AGENT_SHORT_VERSION",
  "OPSFORGE_HOSTNAME", "HOSTNAME"]

/-- The environment of the program. -/
def environment : IO Environment := do
  let known ← variableNames.filterMapM fun name => do
    return (← IO.getEnv name).map fun value => (name, value)
  return fun name => known.lookup name

end Telemetry.Cli

/-- Runs the program and ends with its code. -/
def main (args : List String) : IO UInt32 := do
  let outcome ← Telemetry.Cli.run (← Telemetry.Cli.environment) args
  IO.print outcome.stdout
  outcome.stderr.forM IO.eprintln
  return outcome.code.toUInt32
