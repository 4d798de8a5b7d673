import Telemetry.Text.Replace

/-!
# Patterns

Regular expressions that the generated files carry: `Pattern.escape` spells a text so that it
matches itself, and `Pattern.ofGlob` turns a name pattern with `*` wildcards into an anchored
expression.
-/

namespace Telemetry.Pattern

/-- A character with a meaning of its own in a regular expression. -/
def isMeta (c : Char) : Bool :=
  ['\\', '.', '+', '*', '?', '(', ')', '|', '[', ']', '\x7b', '\x7d', '^', '$', '#',
    '&', '-', '~'].contains c

/-- A character as it is written to stand for itself. -/
def escapeChar (c : Char) : List Char :=
  if isMeta c then ['\\', c] else [c]

/-- A regular expression that matches exactly the given text. -/
def escape (s : String) : String :=
  Text.expandChars escapeChar s

/-- An anchored regular expression for a pattern in which `*` stands for any run of characters. -/
def ofGlob (p : String) : String :=
  "^" ++ Text.replace "\\*" ".*" (escape p) ++ "$"

end Telemetry.Pattern
