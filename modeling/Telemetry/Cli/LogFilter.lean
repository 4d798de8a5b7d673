import Telemetry.Text.Blank
import Telemetry.Text.Replace

/-!
# Log filters

Which log lines are shown can be said by a level alone, or by directives with commas between them.
A directive names a level, or a source of lines and its level, or a span with conditions on its
fields: `info`, `core=debug`, `core[span]=trace`, `[span{field=1}]=warn`.
-/

namespace Telemetry.Cli.LogFilter

/-- The names of levels, in lower case. -/
def levelNames : List String := ["off", "error", "warn", "info", "debug", "trace"]

/-- Whether a text is a number below six, perhaps with a plus in front. -/
def isLevelNumber (cs : List Char) : Bool :=
  let digits := match cs with
    | '+' :: cs => cs
    | cs => cs
  !digits.isEmpty && digits.all Char.isDigit
    && digits.foldl (fun n c => 10 * n + (c.toNat - '0'.toNat)) 0 < 6

/-- Whether a text is a level; no text at all is one too. -/
def isLevel (cs : List Char) : Bool :=
  cs.isEmpty || levelNames.contains (String.ofList (cs.map Char.toLower)) || isLevelNumber cs

/-- A character that can be the first of a directive; beyond ASCII every character counts as a
letter. -/
def isFirst (c : Char) : Bool :=
  c.isAlphanum || c = '-' || c = ':' || c = '_' || 0x80 ≤ c.toNat

/-- Reads to the end of the span, whose conditions may not be empty, and gives what follows. -/
def afterSpan? (cs : List Char) : Option (List Char) :=
  match cs.dropWhile fun c => c ≠ ']' && c ≠ '\x7b' with
  | ']' :: rest => some rest
  | '\x7b' :: fields =>
    match fields.takeWhile (· ≠ '\x7d'), fields.dropWhile (· ≠ '\x7d') with
    | _ :: _, '\x7d' :: ']' :: rest => some rest
    | _, _ => none
  | _ => none

/-- Whether a text is nothing or gives a level after an equals sign. -/
def isLevelPart : List Char → Bool
  | [] => true
  | '=' :: level => isLevel level
  | _ => false

/-- Whether a text is a directive. White space around one counts only where it has a level. -/
def isDirective (cs : List Char) : Bool :=
  let rest? (cs : List Char) : Option (List Char) :=
    match cs with
    | [] => none
    | '[' :: span => afterSpan? span
    | c :: _ =>
      if !isFirst c then none
      else match cs.dropWhile fun c => c ≠ '=' && c ≠ '[' with
        | '[' :: span => afterSpan? span
        | rest => some rest
  let trimmed := Text.trimChars cs
  match rest? trimmed with
  | none => false
  | some [] => true
  | some rest => isLevelPart rest && trimmed = cs

/-- Whether a text is a log filter. -/
def isValid (s : String) : Bool :=
  ((s.toList.splitOn ',').filter (!·.isEmpty)).all isDirective

end Telemetry.Cli.LogFilter
