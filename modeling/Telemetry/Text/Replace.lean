/-!
# Joining and replacing

`Text.join` puts a separator between the members of a list, `Text.mapChars` and `Text.expandChars`
replace characters one at a time, and `Text.replace` replaces every occurrence of a text, from the
left and without overlap.
-/

namespace Telemetry.Text

/-- The members of a list with `sep` between each two. -/
def join (sep : String) : List String → String
  | [] => ""
  | [a] => a
  | a :: rest => a ++ sep ++ join sep rest

/-- Replaces every character by one other. -/
def mapChars (f : Char → Char) (s : String) : String :=
  String.ofList (s.toList.map f)

/-- Replaces every character by a run of characters. -/
def expandChars (f : Char → List Char) (s : String) : String :=
  String.ofList (s.toList.flatMap f)

/-- Replaces the occurrences of `old`, found from the left and without overlap. After a hit,
`skip` counts the characters of `old` that are still to be passed over. -/
def replaceFrom (old new : List Char) : Nat → List Char → List Char
  | _, [] => []
  | skip + 1, _ :: cs => replaceFrom old new skip cs
  | 0, c :: cs =>
    if old.isPrefixOf (c :: cs) then new ++ replaceFrom old new (old.length - 1) cs
    else c :: replaceFrom old new 0 cs

/-- Replaces every occurrence of the non-empty text `old` by `new`. -/
def replace (old new s : String) : String :=
  String.ofList (replaceFrom old.toList new.toList 0 s.toList)

/-- Whether `s` begins with `head`. -/
def startsWith (head s : String) : Bool :=
  head.toList.isPrefixOf s.toList

/-- Lines of text, each with a line break after it. -/
def unlines (ls : List String) : String :=
  ls.foldr (fun l rest => l ++ "\n" ++ rest) ""

/-- A run of `n` spaces. -/
def spaces (n : Nat) : String :=
  String.ofList (List.replicate n ' ')

/-- Fills a text with spaces on the right up to `width` characters. -/
def padRight (width : Nat) (s : String) : String :=
  s ++ spaces (width - s.length)

/-- A number in decimal digits. -/
def decimal (n : Nat) : String :=
  String.ofList (Nat.toDigits 10 n)

end Telemetry.Text
