import Telemetry.Logging.AppLog
import Telemetry.Logging.FileSource
import Telemetry.Logging.ModifyFields

/-!
# Processors of the logging domain

`LogProcessorConfig` is what a configuration can ask for. `LogProcessor` is what stands in a
pipeline: a configured processor, a built-in parser, or one of the two steps into which only the
logs of known applications expand. What a processor can do is asked by functions to `Option`: its
sections for the log engine, its components for the collector, the processors into which it expands,
and the line rules that a file receiver can take over.
-/

namespace Telemetry

/-- A group of line rules, as a configuration asks for it. -/
structure LineGroup where
  groupType : String
  language : String
  deriving DecidableEq, Repr

namespace LineGroup

/-- Refuses a group of a type or for a language without rules. -/
def check (g : LineGroup) (id : String) : Except CompileError Unit :=
  if g.groupType ≠ languageExceptions then
    .error (invalidProcessor id "match_any.type"
      (Text.quote g.groupType ++ " is not one of [" ++ languageExceptions ++ "]"))
  else if (lineRules? g.language).isNone then
    .error (invalidProcessor id "match_any.language"
      (Text.quote g.language ++ " is not one of [" ++ Text.join ", " lineLanguages ++ "]"))
  else .ok ()

/-- The rules of all groups, one group after the other. -/
def rules (gs : List LineGroup) : List Filter.LineRule :=
  gs.flatMap fun g => (lineRules? g.language).getD []

end LineGroup

/-- A rule to drop records: those of which a field matches an expression. -/
structure ExcludeRule where
  field : String
  regex : String
  deriving DecidableEq, Repr

/-- Refuses a rule without a field or an expression. -/
def ExcludeRule.check (r : ExcludeRule) (id : String) : Except CompileError Unit :=
  if Text.isBlankText r.field || r.regex = "" then
    .error (invalidProcessor id "match_any" "every rule needs a non-empty field and regex")
  else .ok ()

/-- A processor for which a configuration can ask. -/
inductive LogProcessorConfig where
  | parseJson (parse : ParseJson)
  | parseRegex (parse : ParseRegex)
  /-- Joins the lines of messages by the rules of all groups. -/
  | parseMultiline (groups : List LineGroup)
  /-- Drops the records that match any rule. -/
  | excludeLogs (rules : List ExcludeRule)
  | modifyFields (changes : ModifyFields)
  /-- Reads the log of a known application. -/
  | app (app : AppLog)

namespace LogProcessorConfig

/-- The name by which a configuration asks for the processor. -/
def typeName : LogProcessorConfig → String
  | parseJson _ => "parse_json"
  | parseRegex _ => "parse_regex"
  | parseMultiline _ => "parse_multiline"
  | excludeLogs _ => "exclude_logs"
  | modifyFields _ => "modify_fields"
  | app a => a.typeName

/-- Refuses bad parameters. -/
def check (id : String) : LogProcessorConfig → Except CompileError Unit
  | parseJson _ => .ok ()
  | parseRegex p => p.check id
  | parseMultiline [] =>
    .error (invalidProcessor id "match_any" "at least one rule group is required")
  | parseMultiline gs => gs.forM (·.check id)
  | excludeLogs [] => .error (invalidProcessor id "match_any" "at least one rule is required")
  | excludeLogs rs => rs.forM (·.check id)
  | modifyFields m => m.check id
  | app _ => .ok ()

end LogProcessorConfig

/-- A processor in a pipeline. -/
inductive LogProcessor where
  | configured (config : LogProcessorConfig)
  /-- Applies the built-in parser of a name. -/
  | builtinParser (name : String)
  /-- Maps the levels in a field to severities. -/
  | severity (source : String) (table : List (String × String))
  /-- Gathers the fields of a request and drops those that say nothing. -/
  | httpRequest

namespace LogProcessor

/-- The name of the type of a processor. -/
def typeName : LogProcessor → String
  | configured c => c.typeName
  | builtinParser _ => "builtin_parser"
  | severity _ _ => "severity_translation"
  | httpRequest => "http_request_fields"

/-- The fields in which a dash stands for nothing. -/
def dashFields : List String := ["host", "user", "http_request_referer"]

/-- The filters that gather the fields of a request. -/
def requestFilters (routing : String) : List Section :=
  (dashFields.map fun field =>
    Filter.modifyIf routing (Filter.keyEquals field "-") (.remove field))
    ++ [Filter.nestFields routing "http_request_*" "logging.googleapis.com/http_request"
      "http_request_"]

/-- The sections for the log engine; `uid` is a name that no other processor has. -/
def sections? (p : LogProcessor) (tag : Tag) (uid : String) : Option (List Section) :=
  match p with
  | configured (.parseJson p) => some (p.sections tag uid)
  | configured (.parseRegex p) => some (p.sections tag uid)
  | configured (.parseMultiline gs) =>
    let parser := "multiline." ++ uid
    some [Filter.lineParser parser (LineGroup.rules gs), Filter.joinLines tag.routing parser]
  | configured (.excludeLogs rs) =>
    some [Filter.exclude tag.routing (rs.map fun r => (r.field, r.regex))]
  | configured (.modifyFields m) => some (m.sections tag)
  | configured (.app _) => none
  | builtinParser name =>
    some [Filter.parse tag.routing Filter.defaultParseKey [name] false]
  | severity source table => some (Filter.mapValues tag.routing source severityKey false table)
  | httpRequest => some (requestFilters tag.routing)

/-- The components for the collector. -/
def nodes? : LogProcessor → Option (List Node)
  | configured (.parseJson p) => some [.transform "log" "log" p.statements]
  | configured (.parseRegex p) => some [.transform "log" "log" p.statements]
  | _ => none

/-- The line rules that a file receiver can take over. -/
def lineRules? : LogProcessor → Option (List Filter.LineRule)
  | configured (.parseMultiline gs) => some (LineGroup.rules gs)
  | _ => none

/-- Reads the lines of an application's log. -/
def ofApp (app : AppLog) : LogProcessor :=
  configured (.parseRegex {
    regex := app.lineRegex
    timeKey := some "time"
    timeFormat := some app.timeFormat
    types := .ofList app.fieldTypes })

/-- The processors that an application's log needs. -/
def forApp (app : AppLog) : List LogProcessor :=
  match app with
  | .nginxAccess => [ofApp app, httpRequest]
  | .apacheAccess => [ofApp app, httpRequest]
  | .nginxError => [ofApp app, severity "level" AppLog.commonSeverities]
  | .apacheError =>
    [ofApp app, severity "level" (AppLog.commonSeverities ++ AppLog.traceSeverities)]

/-- The processors into which one expands. -/
def expand? : LogProcessor → Option (List LogProcessor)
  | configured (.app app) => some (forApp app)
  | _ => none

/-- The names of what a processor can do. They ask whether there are sections, which does not depend
on the tag. -/
def capabilities (p : LogProcessor) : List String :=
  (if (p.sections? (.ofText "") "").isSome then ["fluent-bit"] else [])
    ++ (if p.nodes?.isSome then ["otel"] else [])
    ++ (if p.expand?.isSome then ["expand"] else [])
    ++ (if p.lineRules?.isSome then ["merge-target"] else [])

end LogProcessor

end Telemetry
