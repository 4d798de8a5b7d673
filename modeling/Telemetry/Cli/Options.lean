import Telemetry.Domain

/-!
# Options

The command line begins with global options, then names a command, which has options of its own and
takes the global ones too. `readOptions` reads the options of one place, up to the first argument
that is none. An option has a long name, and most have a letter:

* `--name value`, `--name=value`
* `-l value`, `-lvalue`, `-l=value`

A value that is an argument of its own may not begin with a dash, except that it may be a dash.
-/

namespace Telemetry.Cli

/-- How results are written. -/
inductive ReportFormat where
  | text
  | json
  deriving DecidableEq, Repr

/-- The format with a name. -/
def ReportFormat.ofName? (s : String) : Option ReportFormat :=
  if s = "text" then some text else if s = "json" then some json else none

/-- An option. -/
inductive Opt where
  | config
  | logLevel
  | output
  | input
  | backend
  | outDir
  | selfLogs
  | subagent
  | help
  | version
  deriving DecidableEq, Repr

namespace Opt

/-- The long name. -/
def name : Opt → String
  | config => "config"
  | logLevel => "log-level"
  | output => "output"
  | input => "input"
  | backend => "backend"
  | outDir => "out-dir"
  | selfLogs => "self-logs"
  | subagent => "subagent"
  | help => "help"
  | version => "version"

/-- The letter, if there is one. -/
def letter? : Opt → Option Char
  | config => some 'c'
  | input => some 'i'
  | backend => some 'b'
  | outDir => some 'o'
  | help => some 'h'
  | version => some 'V'
  | _ => none

/-- Whether the option has a value. -/
def takesValue : Opt → Bool
  | selfLogs => false
  | help => false
  | version => false
  | _ => true

/-- Whether a text is a value of the option; a path may not be empty. -/
def accepts (o : Opt) (value : String) : Bool :=
  match o with
  | config => value ≠ ""
  | input => value ≠ ""
  | outDir => value ≠ ""
  | output => (ReportFormat.ofName? value).isSome
  | backend => (Backend.ofName? value).isSome
  | subagent => (Domain.ofName? value).isSome
  | _ => true

end Opt

/-- A command. -/
inductive CommandName where
  | generate
  | validate
  | components
  deriving DecidableEq, Repr

/-- The name of a command. -/
def CommandName.name : CommandName → String
  | generate => "generate"
  | validate => "validate"
  | components => "components"

/-- The command with a name. -/
def CommandName.ofName? (s : String) : Option CommandName :=
  [generate, validate, components].find? (·.name = s)

/-- The options that all places take. -/
def globalOptions : List Opt := [.config, .logLevel, .output]

/-- The options that a place takes; the place in front of the command is none of them. -/
def optionsOf : Option CommandName → List Opt
  | none => globalOptions ++ [.help, .version]
  | some .generate => globalOptions ++ [.help, .input, .backend, .outDir, .selfLogs]
  | some .validate => globalOptions ++ [.help, .input, .backend]
  | some .components => globalOptions ++ [.help, .subagent]

/-- Whether an option may be given more than once. -/
def isRepeatable (place : Option CommandName) (o : Opt) : Bool :=
  place = some .validate && o = .backend

/-- What is wrong with a command line. -/
inductive UsageError where
  | unknownOption (arg : String)
  | unexpectedArgument (arg : String)
  | unknownCommand (name : String)
  | missingCommand
  | missingValue (o : Opt)
  /-- An option without a value was given one. -/
  | needlessValue (o : Opt) (value : String)
  | invalidValue (o : Opt) (value : String)
  | repeated (o : Opt)
  | missingOption (o : Opt)
  deriving DecidableEq, Repr

/-- The text of the error. -/
def UsageError.message : UsageError → String
  | unknownOption arg => "unexpected argument '" ++ arg ++ "' found"
  | unexpectedArgument arg => "unexpected argument '" ++ arg ++ "' found"
  | unknownCommand name => "unrecognized subcommand '" ++ name ++ "'"
  | missingCommand => "'opsforge' requires a subcommand but one was not provided"
  | missingValue o => "a value is required for '--" ++ o.name ++ "' but none was supplied"
  | needlessValue o value => "unexpected value '" ++ value ++ "' for '--" ++ o.name ++ "' found"
  | invalidValue o value => "invalid value '" ++ value ++ "' for '--" ++ o.name ++ "'"
  | repeated o => "the argument '--" ++ o.name ++ "' cannot be used multiple times"
  | missingOption o => "the required argument '--" ++ o.name ++ "' was not provided"

/-- Why no request is read: the line is wrong, or asks about the program itself. -/
inductive Interruption where
  | mistake (e : UsageError)
  | help
  | version
  /-- There is nothing on the line. -/
  | nothing
  deriving DecidableEq, Repr

/-- An option on the line, with its value. -/
structure Given where
  opt : Opt
  value : String
  deriving DecidableEq, Repr

/-- The values of an option, in order. -/
def valuesOf (given : List Given) (o : Opt) : List String :=
  (given.filter (·.opt = o)).map (·.value)

/-- Takes in an option with its value. -/
def addGiven (place : Option CommandName) (given : List Given) (o : Opt) (value : String) :
    Except Interruption (List Given) :=
  if o.accepts value then
    if (valuesOf given o).isEmpty || isRepeatable place o then .ok (given ++ [⟨o, value⟩])
    else .error (.mistake (.repeated o))
  else .error (.mistake (.invalidValue o value))

/-- Takes in an option without a value. -/
def addFlag (place : Option CommandName) (given : List Given) :
    Opt → Except Interruption (List Given)
  | .help => .error .help
  | .version => .error .version
  | o => addGiven place given o ""

/-- An argument that is an option, with the value inside it if there is one. -/
structure OptionArgument where
  opt : Opt
  value? : Option String

/-- Splits a text at the first `=`. -/
def splitValue (cs : List Char) : List Char × Option (List Char) :=
  match cs.dropWhile (· ≠ '=') with
  | _ :: value => (cs.takeWhile (· ≠ '='), some value)
  | [] => (cs, none)

/-- Sees an argument as an option, if it begins like one. -/
def optionArgument? (place : Option CommandName) (arg : String) :
    Option (Except Interruption OptionArgument) :=
  let find (p : Opt → Bool) (value? : Option (List Char)) : Except Interruption OptionArgument :=
    match (optionsOf place).find? p with
    | some o => .ok ⟨o, value?.map String.ofList⟩
    | none => .error (.mistake (.unknownOption arg))
  match arg.toList with
  | '-' :: '-' :: c :: cs =>
    let (name, value?) := splitValue (c :: cs)
    some (find (fun o => o.name.toList = name) value?)
  | ['-', '-'] => none
  | '-' :: c :: cs =>
    let value? := match cs with
      | [] => none
      | '=' :: cs => some cs
      | cs => some cs
    some (find (fun o => o.letter? = some c) value?)
  | _ => none

/-- Whether an argument can be the value of the option in front of it. -/
def isValue (arg : String) : Bool :=
  arg = "-" || !Text.startsWith "-" arg

/-- Reads the options of a place, up to the first argument that is none. An option waits for its
value in the next argument. -/
def readOptions (place : Option CommandName) (given : List Given) (waiting : Option Opt) :
    List String → Except Interruption (List Given × List String)
  | [] =>
    match waiting with
    | some o => .error (.mistake (.missingValue o))
    | none => .ok (given, [])
  | arg :: rest =>
    match waiting with
    | some o =>
      if isValue arg then do readOptions place (← addGiven place given o arg) none rest
      else .error (.mistake (.missingValue o))
    | none =>
      match optionArgument? place arg with
      | none => .ok (given, arg :: rest)
      | some (.error e) => .error e
      | some (.ok ⟨o, some value⟩) =>
        if o.takesValue then do readOptions place (← addGiven place given o value) none rest
        else if o = .help ∧ !Text.startsWith "--" arg then .error .help
        else if o = .version ∧ !Text.startsWith "--" arg then .error .version
        else .error (.mistake (.needlessValue o value))
      | some (.ok ⟨o, none⟩) =>
        if o.takesValue then readOptions place given (some o) rest
        else do readOptions place (← addFlag place given o) none rest

end Telemetry.Cli
