import Telemetry.Cli.LogFilter
import Telemetry.Cli.Report
import Telemetry.Cli.Request
import Telemetry.Compile.Basic
import Telemetry.Config.Read
import Telemetry.Settings.Read

/-!
# Running commands

`run` does what the arguments of the program ask for, on any `Storage`, and says what the program
shows and with which code it ends. A command reads the settings first. `generate` writes nothing
unless the whole configuration compiles; `validate` compiles and writes nothing at all.
-/

namespace Telemetry.Cli

/-- Why a command fails. -/
inductive Failure where
  /-- The settings or the text of the configuration cannot be used. -/
  | settings (e : SettingsError)
  | compile (e : CompileError)
  /-- Some of the checked backends do not take the configuration. -/
  | invalid (failed checked : Nat)
  | storage (reason : String)
  /-- An interval of the configuration is beyond every length of time. -/
  | overflow
  deriving DecidableEq, Repr

namespace Failure

/-- The failure that a refused configuration makes. -/
def ofRefusal : Refusal → Failure
  | .malformed => settings (.malformed "not a YAML document of a configuration")
  | .invalid e => compile e
  | .overflow => overflow

/-- The failure that unusable settings make. -/
def ofSettings : SettingsFault → Failure
  | .invalid e => settings e
  | .unreadable e => storage e.message

/-- The code with which the program ends. -/
def code : Failure → Nat
  | settings _ => 2
  | compile _ => 1
  | invalid _ _ => 1
  | storage _ => 3
  | overflow => 134

/-- The line that tells of the failure. -/
def line : Failure → String
  | settings e => "error: configuration error: " ++ e.message
  | compile e => "error: " ++ e.message
  | invalid failed checked =>
    "error: configuration is invalid for " ++ Text.decimal failed ++ " of "
      ++ Text.decimal checked ++ " backend(s)"
  | storage reason => "error: io error: " ++ reason
  | overflow => "aborted: an interval is too long"

end Failure

/-- What the program shows and the code with which it ends. -/
structure Outcome where
  code : Nat := 0
  stdout : String := ""
  /-- Lines about what went wrong. -/
  stderr : List String := []
  deriving DecidableEq, Repr

/-! ## Without storage -/

/-- The options of a compilation. The command line can only switch the agent's own logs on. -/
def compileOptions (s : Settings) (selfLogs : Bool) : CompileOptions :=
  ⟨selfLogs || s.general.selfLogs, s.general.backendLogLevel⟩

/-- A name of the host, unless it is blank. -/
def hostnameOf? (text : String) : Option String :=
  if Text.isBlankText text then none else some (Text.trim text)

/-- The name of the host that the environment gives. -/
def environmentHostname? (env : Environment) : Option String :=
  ((env "OPSFORGE_HOSTNAME").bind hostnameOf?).or ((env "HOSTNAME").bind hostnameOf?)

/-- What a backend says of a configuration. -/
def checkBackend (c : Config) (p : Platform) (o : CompileOptions) (b : Backend) :
    Except Failure BackendStatus :=
  match compile c b p o with
  | .ok files => .ok ⟨b, .ok files.keys⟩
  | .error (.invalid e) => .ok ⟨b, .error e.message⟩
  | .error e => .error (.ofRefusal e)

/-- What is wrong with the result that a report tells of. -/
def Report.failure? : Report → Option Failure
  | validated _ results =>
    let failed := results.countP (!·.isValid)
    if failed = 0 then none else some (.invalid failed results.length)
  | _ => none

/-! ## On storage -/

section

variable {m : Type → Type} [Monad m] [Storage m]

/-- Goes on with a result, or fails with it. -/
def settle (result : Except Failure α) : ExceptT Failure m α :=
  ExceptT.mk (pure result)

/-- Reads the file at a path. -/
def readText (path : String) : ExceptT Failure m (Except StorageError String) :=
  ExceptT.lift (Storage.readText path)

/-- The settings in a file, over which the environment wins. -/
def loadSettings (env : Environment) (path : String) : ExceptT Failure m Settings := do
  settle ((Settings.loadOrDefault env path (← readText path)).mapError .ofSettings)

/-- The configuration in a file. -/
def loadConfig (path : String) : ExceptT Failure m Config := do
  match ← readText path with
  | .ok text => settle ((Config.read text).mapError .ofRefusal)
  | .error e => throw (.storage (path ++ ": " ++ e.message))

/-- The name of the host: what the environment says, or else the system's own file of it. -/
def hostname (env : Environment) : ExceptT Failure m String := do
  match environmentHostname? env with
  | some name => return name
  | none =>
    match ← readText "/etc/hostname" with
    | .ok text => return (hostnameOf? text).getD "localhost"
    | .error _ => return "localhost"

/-- Gives the result of an operation on files, whose failure ends the command. -/
def demand (operation : m (Except StorageError α)) : ExceptT Failure m α := do
  match ← (ExceptT.lift operation : ExceptT Failure m _) with
  | .ok a => return a
  | .error e => throw (.storage e.message)

/-- Writes files into a folder, which is made if it is missing. -/
def writeFiles (outDir : String) (files : Files) : ExceptT Failure m Unit := do
  demand (Storage.makeFolder outDir)
  files.entries.forM fun (name, text) => demand (Storage.writeText outDir name text)

/-- Does what a command asks for. -/
def execute (env : Environment) (s : Settings) : Command → ExceptT Failure m Report
  | .generate input backend outDir? selfLogs => do
    let c ← loadConfig input
    let p := s.platform (← hostname env)
    let files ← settle
      ((compile c backend p (compileOptions s selfLogs)).mapError .ofRefusal)
    let outDir := outDir?.getD s.paths.outputDir
    writeFiles outDir files
    return .generated backend outDir files
  | .validate input backends => do
    let c ← loadConfig input
    let p := s.platform (← hostname env)
    let checked := if backends.isEmpty then Backend.all else backends
    let results ← settle (checked.mapM (checkBackend c p (compileOptions s false)))
    return .validated input results
  | .components domain? =>
    return .components (Catalog.components.filter fun c => domain?.all (· = c.domain))

/-- What is said of a log filter that is none. -/
def warnings (s : Settings) (globals : Globals) : List String :=
  let filter := globals.logLevel.getD s.general.logLevel
  if LogFilter.isValid filter then [] else ["warning: invalid log level " ++ Text.quote filter]

/-- Does what a request asks for. -/
def Request.run (env : Environment) (r : Request) : m Outcome := do
  match ← (loadSettings env r.globals.settingsPath).run with
  | .error e => return { code := e.code, stderr := [e.line] }
  | .ok s =>
    let warned := warnings s r.globals
    match ← (execute env s r.command).run with
    | .error e => return { code := e.code, stderr := warned ++ [e.line] }
    | .ok report =>
      let stdout := report.write r.globals.format
      match report.failure? with
      | some e => return { code := e.code, stdout := stdout, stderr := warned ++ [e.line] }
      | none => return { stdout := stdout, stderr := warned }

end

/-! ## The program -/

/-- The name and the version of the program. -/
def versionLine : String := "opsforge " ++ programVersion

/-- How the program is used. -/
def usageLines : List String := [
  "Usage: opsforge [OPTIONS] <COMMAND>",
  "",
  "Commands:",
  "  generate    Compile a unified configuration for one backend and write the files",
  "  validate    Compile a unified configuration for every backend without writing",
  "  components  List registered component types and their capabilities",
  "  help        Print this message",
  "",
  "Options:",
  "  -c, --config <CONFIG>        Path to the settings file [default: opsforge.toml]",
  "      --log-level <LOG_LEVEL>  Override log level (trace, debug, info, warn, error)",
  "      --output <OUTPUT>        Output format [default: text] [possible values: text, json]",
  "  -h, --help                   Print help",
  "  -V, --version                Print version"]

/-- What the program shows where the arguments make no request. -/
def Interruption.outcome : Interruption → Outcome
  | mistake e => { code := 2, stderr := ["error: " ++ e.message] }
  | help => { stdout := Text.unlines usageLines }
  | version => { stdout := Text.unlines [versionLine] }
  | nothing => { code := 2, stderr := usageLines }

/-- Does what the arguments of the program ask for. -/
def run {m : Type → Type} [Monad m] [Storage m] (env : Environment) (args : List String) :
    m Outcome :=
  match Request.read args with
  | .error i => pure i.outcome
  | .ok r => r.run env

end Telemetry.Cli
