import Telemetry.Catalog
import Telemetry.Cli.Json
import Telemetry.Cli.Options
import Telemetry.Section.Layout

/-!
# Reports

What a command shows when it has done its work: which files were generated, what each backend says
of a configuration, or which types of components there are. A report is written for people or as
JSON.
-/

namespace Telemetry.Cli

/-- What a backend says of a configuration: the names of the files that it would get, or why there
are none. -/
structure BackendStatus where
  backend : Backend
  outcome : Except String (List String)

/-- Whether the backend takes the configuration. -/
def BackendStatus.isValid (s : BackendStatus) : Bool :=
  match s.outcome with
  | .ok _ => true
  | .error _ => false

/-- What a command shows. -/
inductive Report where
  /-- The files that were written into a folder. -/
  | generated (backend : Backend) (outDir : String) (files : Files)
  /-- What backends say of the configuration in a file. -/
  | validated (source : String) (results : List BackendStatus)
  | components (types : List ComponentInfo)

namespace Report

/-- A line of a number of dashes. -/
def rule (width : Nat) : String :=
  String.ofList (List.replicate width '-')

/-! ## For people -/

/-- The line for a generated file. -/
def fileLine (file : String × String) : String :=
  "  ✓ " ++ Text.padRight 32 file.1 ++ " " ++ Text.decimal file.2.utf8ByteSize ++ " bytes"

/-- The lines for a backend. -/
def statusLines (s : BackendStatus) : List String :=
  let head (status : String) : String :=
    Text.padRight 12 s.backend.name ++ " " ++ Text.padRight 8 status
  match s.outcome with
  | .ok files => [head "OK" ++ " " ++ Text.join ", " files]
  | .error reason => [head "FAILED", "  " ++ reason]

/-- A line with four columns. -/
def typeLine (domain role typeName capabilities : String) : String :=
  Text.padRight 10 domain ++ " " ++ Text.padRight 10 role ++ " " ++ Text.padRight 28 typeName
    ++ " " ++ capabilities

/-- The lines of a report. -/
def lines : Report → List String
  | generated backend outDir files =>
    ("Generated " ++ backend.name ++ " configuration in " ++ outDir)
      :: files.entries.map fileLine
  | validated source results =>
    ["Source: " ++ source, "",
      Text.padRight 12 "Backend" ++ " " ++ Text.padRight 8 "Status" ++ " Files", rule 60]
      ++ results.flatMap statusLines
  | components types =>
    [typeLine "Subagent" "Role" "Type" "Capabilities", rule 80]
      ++ types.map (fun c =>
        typeLine c.domain.name c.role.name c.typeName (Text.join ", " c.capabilities))
      ++ ["", Text.decimal types.length ++ " component type(s)"]

/-! ## As JSON -/

/-- A backend as a record. -/
def statusJson (s : BackendStatus) : Json :=
  let record (files : List String) (error : List (String × Json)) : Json :=
    .record ([("backend", .text s.backend.name), ("valid", .flag s.isValid),
      ("files", .texts files)] ++ error)
  match s.outcome with
  | .ok files => record files []
  | .error reason => record [] [("error", .text reason)]

/-- A type of components as a record. -/
def typeJson (c : ComponentInfo) : Json :=
  .record [
    ("subagent", .text c.domain.name), ("role", .text c.role.name),
    ("type_name", .text c.typeName), ("capabilities", .texts c.capabilities)]

/-- A report as a record. -/
def json : Report → Json
  | generated backend outDir files =>
    let file (f : String × String) : Json :=
      .record [("name", .text f.1), ("bytes", .number f.2.utf8ByteSize)]
    .record [
      ("backend", .text backend.name), ("out_dir", .text outDir),
      ("files", .list (files.entries.map file))]
  | validated source results =>
    .record [("source", .text source), ("results", .list (results.map statusJson))]
  | components types => .record [("components", .list (types.map typeJson))]

/-- Writes a report. -/
def write (r : Report) : ReportFormat → String
  | .text => Text.unlines r.lines
  | .json => r.json.write

end Report

end Telemetry.Cli
