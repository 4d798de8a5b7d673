import Telemetry.Logging.LineRules

/-!
# Logs of known applications

Applications whose logs can be read without further settings: where their files are, how their lines
look, and what their levels mean.
-/

namespace Telemetry

/-- A log of a known application. -/
inductive AppLog where
  | nginxAccess
  | nginxError
  | apacheAccess
  | apacheError
  deriving DecidableEq, Repr

namespace AppLog

/-- All logs of known applications. -/
def all : List AppLog := [nginxAccess, nginxError, apacheAccess, apacheError]

/-- The name by which a configuration asks for a log. -/
def typeName : AppLog → String
  | nginxAccess => "nginx_access"
  | nginxError => "nginx_error"
  | apacheAccess => "apache_access"
  | apacheError => "apache_error"

/-- The log with a given name. -/
def ofTypeName? (name : String) : Option AppLog :=
  all.find? fun app => app.typeName = name

/-- The files of a log unless others are given. -/
def defaultPaths : AppLog → List String
  | nginxAccess => ["/var/log/nginx/access.log"]
  | nginxError => ["/var/log/nginx/error.log"]
  | apacheAccess => ["/var/log/apache2/access.log"]
  | apacheError => ["/var/log/apache2/error.log"]

/-- The expression for a line of a log; its groups are named after the fields of the record. -/
def lineRegex : AppLog → String
  | nginxAccess =>
    "^(?<http_request_remoteIp>[^ ]*) (?<host>[^ ]*) (?<user>[^ ]*) \\[(?<time>[^\\]]*)\\] \"(?<http_request_requestMethod>\\S+)(?: +(?<http_request_requestUrl>[^\\\"]*?)(?: +(?<http_request_protocol>\\S+))?)?\" (?<http_request_status>[^ ]*) (?<http_request_responseSize>[^ ]*)(?: \"(?<http_request_referer>[^\\\"]*)\" \"(?<http_request_userAgent>[^\\\"]*)\")?(?: \"(?<gzip_ratio>[^\\\"]*)\")?$"
  | nginxError =>
    "^(?<time>[0-9]+[./-][0-9]+[./-][0-9]+[- ][0-9]+:[0-9]+:[0-9]+) \\[(?<level>[^\\]]*)\\] (?<pid>[0-9]+)#(?<tid>[0-9]+):(?: \\*(?<connection>[0-9]+))? (?<message>.*?)(?:, client: (?<client>[^,]+))?(?:, server: (?<server>[^,]+))?(?:, request: \"(?<request>[^\"]*)\")?(?:, subrequest: \\\"(?<subrequest>[^\\\"]*)\\\")?(?:, upstream: \\\"(?<upstream>[^\"]*)\\\")?(?:, host: \\\"(?<host>[^\\\"]*)\\\")?(?:, referrer: \\\"(?<referer>[^\"]*)\\\")?$"
  | apacheAccess =>
    "^(?<http_request_remoteIp>[^ ]*) (?<host>[^ ]*) (?<user>[^ ]*) \\[(?<time>[^\\]]*)\\] \"(?<http_request_requestMethod>\\S+)(?: +(?<http_request_requestUrl>[^\\\"]*?)(?: +(?<http_request_protocol>\\S+))?)?\" (?<http_request_status>[^ ]*) (?<http_request_responseSize>[^ ]*)(?: \"(?<http_request_referer>[^\\\"]*)\" \"(?<http_request_userAgent>[^\\\"]*)\")?$"
  | apacheError =>
    "^\\[(?<time>[^\\]]+)\\] \\[(?:(?<module>\\w+):)?(?<level>[\\w\\d]+)\\](?: \\[pid (?<pid>\\d+)(?::tid (?<tid>[0-9]+))?\\])?(?: (?<errorCode>[^\\[:]*):?)?(?: \\[client (?<client>[^\\]]*)\\])? (?<message>.*)$"

/-- How the time is written in a log. -/
def timeFormat : AppLog → String
  | nginxAccess => "%d/%b/%Y:%H:%M:%S %z"
  | nginxError => "%Y/%m/%d %H:%M:%S"
  | apacheAccess => "%d/%b/%Y:%H:%M:%S %z"
  | apacheError => "%a %b %d %H:%M:%S.%L %Y"

/-- The fields of a log that are numbers. -/
def fieldTypes : AppLog → List (String × String)
  | nginxAccess => [("http_request_status", "integer")]
  | nginxError => [("pid", "integer"), ("tid", "integer"), ("connection", "integer")]
  | apacheAccess => [("http_request_status", "integer")]
  | apacheError => [("pid", "integer"), ("tid", "integer")]

/-- The levels that both error logs know, with their severities. -/
def commonSeverities : List (String × String) := [
  ("emerg", "EMERGENCY"), ("alert", "ALERT"), ("crit", "CRITICAL"), ("error", "ERROR"),
  ("warn", "WARNING"), ("notice", "NOTICE"), ("info", "INFO"), ("debug", "DEBUG")]

/-- The finer levels of Apache. -/
def traceSeverities : List (String × String) := [
  ("trace1", "DEBUG"), ("trace2", "DEBUG"), ("trace3", "DEBUG"), ("trace4", "DEBUG"),
  ("trace5", "DEBUG"), ("trace6", "DEBUG"), ("trace7", "DEBUG"), ("trace8", "DEBUG")]

end AppLog

end Telemetry
