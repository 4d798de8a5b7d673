import Telemetry.Cli.Options

/-!
# Requests

`Request.read` makes a request from the arguments of the program, or says why there is none.
-/

namespace Telemetry.Cli

/-- What all commands can be told. -/
structure Globals where
  /-- The path of the settings file. -/
  settingsPath : String := "opsforge.toml"
  /-- Which log lines are shown, where that differs from the settings. -/
  logLevel : Option String := none
  format : ReportFormat := .text
  deriving DecidableEq, Repr

/-- A command with its options. -/
inductive Command where
  /-- Compile a configuration for a backend and write the files. -/
  | generate (input : String) (backend : Backend) (outDir : Option String) (selfLogs : Bool)
  /-- Compile a configuration for some backends, or for all if none is named, without writing. -/
  | validate (input : String) (backends : List Backend)
  /-- List the types of components, perhaps of one domain only. -/
  | components (domain : Option Domain)
  deriving DecidableEq, Repr

/-- What the program is asked to do. -/
structure Request where
  globals : Globals
  command : Command
  deriving DecidableEq, Repr

/-- The value of an option. -/
def value? (given : List Given) (o : Opt) : Option String :=
  (valuesOf given o).head?

/-- The value of an option that a command cannot do without. -/
def required (given : List Given) (o : Opt) : Except Interruption String :=
  match value? given o with
  | some v => .ok v
  | none => .error (.mistake (.missingOption o))

/-- The value of an option by a reading of texts; `Opt.accepts` saw that there is one. -/
def requiredAs (given : List Given) (o : Opt) (read : String → Option α) :
    Except Interruption α := do
  let text ← required given o
  match read text with
  | some v => return v
  | none => throw (.mistake (.invalidValue o text))

namespace Globals

/-- The global options among those in front of the command and those after it, which win. -/
def ofGiven (before after : List Given) : Globals :=
  let last? (o : Opt) : Option String := (value? after o).or (value? before o)
  { settingsPath := (last? .config).getD "opsforge.toml"
    logLevel := last? .logLevel
    format := ((last? .output).bind ReportFormat.ofName?).getD .text }

end Globals

namespace Command

/-- A command with the given options. -/
def ofGiven (given : List Given) : CommandName → Except Interruption Command
  | .generate => do
    let input ← required given .input
    let backend ← requiredAs given .backend Backend.ofName?
    return .generate input backend (value? given .outDir) (value? given .selfLogs).isSome
  | .validate => do
    let input ← required given .input
    return .validate input ((valuesOf given .backend).filterMap Backend.ofName?)
  | .components => return .components ((value? given .subagent).bind Domain.ofName?)

end Command

/-- What comes of asking for help on commands. -/
def helpOn : List String → Interruption
  | [] => .help
  | [name] =>
    if (CommandName.ofName? name).isSome || name = "help" then .help
    else .mistake (.unknownCommand name)
  | name :: other :: _ =>
    if (CommandName.ofName? name).isSome then .mistake (.unknownCommand other)
    else .mistake (.unknownCommand name)

/-- Where the arguments of a place end: a double dash ends them too. -/
def readEnd : List String → Except Interruption Unit
  | [] => .ok ()
  | ["--"] => .ok ()
  | "--" :: arg :: _ => .error (.mistake (.unexpectedArgument arg))
  | arg :: _ => .error (.mistake (.unexpectedArgument arg))

/-- Reads a request from the arguments of the program. -/
def Request.read (args : List String) : Except Interruption Request := do
  let (before, rest) ← readOptions none [] none args
  match rest with
  | "help" :: names => throw (helpOn names)
  | name :: rest =>
    match CommandName.ofName? name with
    | some command =>
      let (after, rest) ← readOptions (some command) [] none rest
      readEnd rest
      return ⟨.ofGiven before after, ← Command.ofGiven after command⟩
    | none =>
      if name = "--" ∧ rest = [] then
        throw (if before.isEmpty then .nothing else .mistake .missingCommand)
      else throw (.mistake (.unknownCommand name))
  | [] => throw (if before.isEmpty then .nothing else .mistake .missingCommand)

end Telemetry.Cli
