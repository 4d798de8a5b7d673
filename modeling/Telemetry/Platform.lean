import Telemetry.Text.Replace

/-!
# The platform

What the generated files tell about the host and the build of the agent. A compilation takes these
facts as a value, so that equal facts give equal files.
-/

namespace Telemetry

/-- The family of the operating system. -/
inductive OsKind where
  | linux
  | windows
  deriving DecidableEq, Repr

/-- The name of an operating system. -/
def OsKind.name : OsKind → String
  | linux => "linux"
  | windows => "windows"

/-- The facts about a host that a compilation uses. -/
structure Platform where
  os : OsKind
  hostname : String
  agentVersion : String
  buildDistro : String
  shortName : String
  shortVersion : String
  /-- The directory of the agent's own logs. -/
  logsDir : String
  /-- The directory of the agent's state. -/
  stateDir : String
  deriving DecidableEq, Repr

namespace Platform

/-- How a component of the agent names itself to the services. -/
def userAgent (p : Platform) (component : String) : String :=
  component ++ "/" ++ p.agentVersion ++ " (BuildDistro=" ++ p.buildDistro ++ ";Platform="
    ++ p.os.name ++ ";ShortName=" ++ p.shortName ++ ";ShortVersion=" ++ p.shortVersion ++ ")"

/-- The number of workers of an output. -/
def outputWorkers (p : Platform) : Nat :=
  match p.os with
  | .linux => 8
  | .windows => 1

/-- Removes the separators at the end of a path. -/
def dropSeparators (path : String) : String :=
  String.ofList (path.toList.reverse.dropWhile fun c => c = '/' || c = '\\').reverse

/-- The directory of the log engine's buffers. -/
def buffersDir (p : Platform) : String :=
  dropSeparators p.stateDir ++ "/buffers"

end Platform

end Telemetry
