import Telemetry.Domain
import Telemetry.Text.Quoted

/-!
# Errors

Why a configuration is refused. Each cause is a constructor, and the wording of all messages is in
the functions named `message`. Errors of the two serialisers, `SectionError` and `GraphError`, reach
the user as a `CompileError.backend`, which tells of a fault inside the program and not in the
input. A `Refusal` says why a configuration as a whole is not accepted.
-/

namespace Telemetry

open Text (quote)

/-- Why a list of sections cannot be written. -/
inductive SectionError where
  /-- Kinds of sections that the log engine does not know, in ascending order. -/
  | unknownSections (kinds : List String)
  /-- A parser bears a reserved name or that of another parser. -/
  | parserCollision (name : String)
  | emptyParserName
  /-- One file would get two contents. -/
  | conflictingOutputFile (name : String)
  deriving DecidableEq, Repr

/-- The text of the error. -/
def SectionError.message : SectionError → String
  | unknownSections kinds => "unknown section kinds: [" ++ Text.join ", " kinds ++ "]"
  | parserCollision name =>
    "parser name " ++ quote name ++ " collides with an already registered parser"
  | emptyParserName => "parser section has no Name"
  | conflictingOutputFile name =>
    "output file " ++ quote name ++ " was emitted twice with different contents"

/-- Why a collector graph cannot be written. -/
inductive GraphError where
  /-- A pipeline needs an exporter of a type that the graph lacks. -/
  | missingExporter (exporterType pipeline : String)
  | unknownReceiverPipeline (pipeline receiverPipeline : String)
  deriving DecidableEq, Repr

/-- The text of the error. -/
def GraphError.message : GraphError → String
  | missingExporter exporterType pipeline =>
    "no exporter registered for exporter type " ++ quote exporterType
      ++ " (pipeline " ++ quote pipeline ++ ")"
  | unknownReceiverPipeline pipeline receiverPipeline =>
    "pipeline " ++ quote pipeline ++ " references unknown receiver pipeline "
      ++ quote receiverPipeline

/-- Why a configuration cannot be compiled. -/
inductive CompileError where
  /-- A pipeline lists an id that is not defined. -/
  | undefinedReference (domain : Domain) (role : Role) (id pipeline : String)
  /-- A user-defined id begins like those of built-in components. -/
  | reservedId (domain : Domain) (role : Role) (id : String)
  /-- There are too many or too few of something. -/
  | cardinality (domain : Domain) (rule : String) (found : Nat)
  /-- A component cannot be used with the backend of its pipeline. -/
  | missingCapability (domain : Domain) (role : Role) (id pipeline capability : String)
  | unsupportedType (domain : Domain) (role : Role) (id typeName : String) (supported : List String)
  | invalidParameter (domain : Domain) (role : Role) (id parameter reason : String)
  /-- Two receivers listen on one port. -/
  | portConflict (port : Nat) (first second : String)
  /-- Two pipeline instances would share a tag. -/
  | tagCollision (tag firstPipeline firstReceiver secondPipeline secondReceiver : String)
  /-- A serialiser refused what the program itself has built. -/
  | backend (backend : Backend) (reason : String)
  deriving DecidableEq, Repr

namespace CompileError

/-- The domain and the role of a component, as messages begin. -/
def subject (domain : Domain) (role : Role) : String :=
  domain.name ++ " " ++ role.name

/-- The text of the error. -/
def message : CompileError → String
  | undefinedReference domain role id pipeline =>
    subject domain role ++ " " ++ quote id ++ " from pipeline " ++ quote pipeline
      ++ " is not defined."
  | reservedId domain role id =>
    subject domain role ++ " id " ++ quote id
      ++ " is not allowed because prefix 'lib:' is reserved for pre-defined " ++ role.plural ++ "."
  | cardinality _ rule found => rule ++ " (found " ++ Text.decimal found ++ ")."
  | missingCapability domain role id pipeline capability =>
    subject domain role ++ " " ++ quote id ++ " in pipeline " ++ quote pipeline
      ++ " is missing the required capability " ++ quote capability ++ "."
  | unsupportedType domain role id typeName supported =>
    subject domain role ++ " " ++ quote id ++ " with type " ++ quote typeName
      ++ " is not supported. Supported " ++ subject domain role ++ " types: ["
      ++ Text.join ", " supported ++ "]."
  | invalidParameter domain role id parameter reason =>
    "parameter " ++ quote parameter ++ " in " ++ subject domain role ++ " " ++ quote id
      ++ " is invalid: " ++ reason
  | portConflict port first second =>
    "port " ++ Text.decimal port ++ " is used by both receiver " ++ quote first
      ++ " and receiver " ++ quote second ++ "."
  | tagCollision tag firstPipeline firstReceiver secondPipeline secondReceiver =>
    "logging pipeline " ++ quote firstPipeline ++ " with receiver " ++ quote firstReceiver
      ++ " and pipeline " ++ quote secondPipeline ++ " with receiver " ++ quote secondReceiver
      ++ " both map to tag " ++ quote tag ++ "; rename one of them."
  | backend b reason => b.name ++ " backend error: " ++ reason

/-- The text of the error where errors of all kinds are shown. -/
def report (e : CompileError) : String :=
  "compile error: " ++ e.message

/-- Whether the fault is the program's own. -/
def isInternal : CompileError → Bool
  | backend _ _ => true
  | _ => false

end CompileError

/-- Why settings are not accepted. -/
inductive SettingsError where
  | fileNotFound (path : String)
  /-- The text cannot be read, or what it says does not fit the settings. -/
  | malformed (reason : String)
  | invalidValue (field reason : String)
  deriving DecidableEq, Repr

namespace SettingsError

/-- The text of the error. -/
def message : SettingsError → String
  | fileNotFound path => "config file not found: " ++ path
  | malformed reason => "failed to parse config: " ++ reason
  | invalidValue field reason => "invalid config value for '" ++ field ++ "': " ++ reason

/-- The text of the error where errors of all kinds are shown. -/
def report (e : SettingsError) : String :=
  "config error: " ++ e.message

end SettingsError

/-- Why a configuration is not accepted. -/
inductive Refusal where
  /-- The text cannot be read, or what it says does not fit the model. -/
  | malformed
  /-- A rule of the model is violated. -/
  | invalid (e : CompileError)
  /-- An interval is beyond every length of time that has a representation. -/
  | overflow
  deriving DecidableEq, Repr

/-- A refusal by the writer of sections, seen as an error of the compilation. -/
def SectionError.toCompileError (e : SectionError) : CompileError :=
  .backend .fluentBit e.message

/-- A refusal by the writer of collector graphs, seen as an error of the compilation. -/
def GraphError.toCompileError (e : GraphError) : CompileError :=
  .backend .collector e.message

end Telemetry
