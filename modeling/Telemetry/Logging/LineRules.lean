import Telemetry.Section.Filter

/-!
# Stack traces of languages

For each supported language, the rules by which the lines of a stack trace are joined to one
message. Every table begins in the state `start_state`, so that the tables of several languages can
stand one after the other: the first line of a trace then decides which language it is.
-/

namespace Telemetry

open Telemetry.Filter (LineRule)

/-- The languages with rules of their own, in the order in which messages list them. -/
def lineLanguages : List String := ["java", "python", "go"]

/-- The only type of a group of line rules: the traces of one language. -/
def languageExceptions : String := "language_exceptions"

/-- The rules for Java. -/
def javaRules : List LineRule := [
  ⟨"start_state", "(?:Exception|Error|Throwable|V8 errors stack trace)[:\\r\\n]",
    "java_after_exception"⟩,
  ⟨"java_after_exception", "^[\\t ]*nested exception is:[\\t ]*", "java_after_exception"⟩,
  ⟨"java_after_exception", "^[\\r\\n]*$", "java_after_exception"⟩,
  ⟨"java_after_exception", "^[\\t ]+(?:eval )?at ", "java"⟩,
  ⟨"java", "^[\\t ]+(?:eval )?at ", "java"⟩,
  ⟨"java", "^[\\t ]*(?:Caused by|Suppressed):", "java_after_exception"⟩,
  ⟨"java", "^[\\t ]*... \\d+ (?:more|common frames omitted)", "java"⟩]

/-- The rules for Python. -/
def pythonRules : List LineRule := [
  ⟨"start_state", "^Traceback \\(most recent call last\\):$", "python"⟩,
  ⟨"python", "^[\\t ]+File ", "python_code"⟩,
  ⟨"python_code", "[^\\t ]", "python"⟩,
  ⟨"python", "^(?:[^\\s.():]+\\.)*[^\\s.():]+:", "start_state"⟩]

/-- The rules for Go. -/
def goRules : List LineRule := [
  ⟨"start_state", "\\bpanic: ", "go_after_panic"⟩,
  ⟨"go_after_panic", "^$", "go_goroutine"⟩,
  ⟨"go_goroutine", "^goroutine \\d+ \\[[^\\]]+\\]:$", "go_frame_1"⟩,
  ⟨"go_frame_1", "^(?:[^\\s.:]+\\.)*[^\\s.():]+\\(|^created by ", "go_frame_2"⟩,
  ⟨"go_frame_2", "^\\s", "go_frame_1"⟩]

/-- The rules for a language by its name. -/
def lineRules? (language : String) : Option (List LineRule) :=
  if language = "java" then some javaRules
  else if language = "python" then some pythonRules
  else if language = "go" then some goRules
  else none

end Telemetry
