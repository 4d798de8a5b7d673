import Telemetry.Section.Tag
import Telemetry.Section.Basic

/-!
# Lua filters

Some filters run a Lua function on each record. The script is a file beside the configuration, named
by the hash of its text, so that equal scripts share one file. `Script.filter` gives the filter and
the file; the scripts nest and merge records around a parser, strip line ends, and copy the part of
a dynamic tag that the client wrote into the log name.
-/

namespace Telemetry.Script

/-- The key under which a record is kept while one of its fields is parsed. -/
def storeKey : String := "logging.googleapis.com/__tmp"

/-- Moves every field but the one to parse under `storeKey`. -/
def nest (field : String) : String :=
  Text.unlines [
    "",
    "function parser_nest(tag, timestamp, record)",
    "  local nested = \x7b\x7d",
    "  for k, v in pairs(record) do",
    "    if k ~= \"" ++ field ++ "\" then",
    "      nested[k] = v",
    "      record[k] = nil",
    "    end",
    "  end",
    "  record[\"" ++ storeKey ++ "\"] = nested",
    "  return 2, timestamp, record",
    "end"]

/-- Merges the parsed fields into the record that was put aside. -/
def merge : String :=
  Text.unlines [
    "",
    "function shallow_merge(record, parsed)",
    "  if record == nil then",
    "    return parsed",
    "  end",
    "  for k, v in pairs(parsed) do",
    "    record[k] = v",
    "  end",
    "  return record",
    "end",
    "",
    "function merge(record, parsed)",
    "  if record == nil then",
    "    return parsed",
    "  end",
    "  for k, v in pairs(parsed) do",
    "    if k == \"logging.googleapis.com/logName\" then",
    "      -- keep the original log name",
    "    elseif k == \"logging.googleapis.com/labels\" then",
    "      record[k] = shallow_merge(record[k], v)",
    "    else",
    "      record[k] = v",
    "    end",
    "  end",
    "  return record",
    "end",
    "",
    "function parser_merge_record(tag, timestamp, record)",
    "  local original = record[\"logging.googleapis.com/__tmp\"]",
    "  if original == nil then",
    "    return 0, timestamp, record",
    "  end",
    "  record[\"logging.googleapis.com/__tmp\"] = nil",
    "  return 2, timestamp, merge(original, record)",
    "end"]

/-- Removes one line end at the end of the message. -/
def stripNewline : String :=
  Text.unlines [
    "",
    "local function trim_newline(s)",
    "  if string.sub(s, -2) == \"\\r\\n\" then",
    "    return string.sub(s, 1, -3)",
    "  elseif string.sub(s, -1) == \"\\n\" then",
    "    return string.sub(s, 1, -2)",
    "  end",
    "  return s",
    "end",
    "",
    "function strip_newline(tag, timestamp, record)",
    "  record[\"message\"] = trim_newline(record[\"message\"])",
    "  return 2, timestamp, record",
    "end"]

/-- Appends the client's part of a dynamic tag, which begins with its fourth segment, to the name of
the log. -/
def addLogName : String :=
  Text.unlines [
    "",
    "local function split(s)",
    "  local parts = \x7b\x7d",
    "  for part in string.gmatch(s, \"[^.]+\") do",
    "    table.insert(parts, part)",
    "  end",
    "  return parts",
    "end",
    "",
    "function add_log_name(tag, timestamp, record)",
    "  local parts = split(tag)",
    "  local log_name = record[\"logging.googleapis.com/logName\"]",
    "  if #parts <= 3 or log_name == nil then",
    "    return 0, timestamp, record",
    "  end",
    "  local client_tag = table.concat(parts, \".\", 4)",
    "  record[\"logging.googleapis.com/logName\"] = log_name .. \".\" .. client_tag",
    "  return 2, timestamp, record",
    "end"]

/-- The name of the file that holds a script. -/
def fileName (script : String) : String :=
  contentHash script ++ ".lua"

/-- The filter that calls a function of a script, and the script's file. -/
def filter (routing function script : String) : List Section :=
  [.ofFields .filter
    [("Name", "lua"), ("Match", routing), ("script", fileName script), ("call", function)],
   .ofFile (fileName script) script]

/-- Strips the line end that an input leaves at the end of a message. -/
def stripNewlineFilter (routing : String) : List Section :=
  filter routing "strip_newline" stripNewline

/-- Copies the client's part of a dynamic tag into the log name; it follows the identity filter. -/
def addLogNameFilter (routing : String) : List Section :=
  filter routing "add_log_name" addLogName

end Telemetry.Script
