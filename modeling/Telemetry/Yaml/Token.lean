import Telemetry.Yaml.Cursor

/-!
# Tokens

The parts of a document: indicators, scalars, and the beginnings and ends of collections, where
those of block collections come from indentation. This module also reads the tokens that stand for
themselves: names of anchors, tags and directives.
-/

namespace Telemetry.Yaml

/-- A part of a document. -/
inductive Token where
  /-- The version of the language, as a major and a minor number. -/
  | version (major minor : Nat)
  /-- A handle for the tags of the next document and what it stands for. -/
  | tagHandle (handle head : String)
  | documentStart
  | documentEnd
  | blockSequence
  | blockMapping
  | blockEnd
  | flowSequence
  | flowSequenceEnd
  | flowMapping
  | flowMappingEnd
  | blockEntry
  | flowEntry
  | key
  | value
  | alias (name : String)
  | anchor (name : String)
  | tag (handle rest : String)
  /-- A scalar, and whether it was written without quotes. -/
  | scalar (isPlain : Bool) (text : String)
  deriving DecidableEq, Repr

/-! ## Anchors -/

/-- Reads the name of an anchor, which must be followed by white space or one of some indicators. -/
def anchorName? (c : Cursor) : Option (String × Cursor) :=
  let (name, c) := c.span isNameChar
  let ends := atBlank c.rest || match c.rest with
    | ch :: _ => ['?', ':', ',', ']', '\x7d', '%', '@', Char.ofNat 0x60].contains ch
    | [] => true
  if !name.isEmpty && ends then some (String.ofList name, c) else none

/-! ## Tags -/

/-- A character of a tag; `inUri` says that the tag is written in full. -/
def isTagChar (inUri : Bool) (c : Char) : Bool :=
  isNameChar c
    || [';', '/', '?', ':', '@', '&', '=', '+', '$', '.', '!', '~', '*', '\'', '(', ')',
        '%'].contains c
    || (inUri && [',', '[', ']'].contains c)

/-- The value of a hexadecimal digit. -/
def hexDigit? (c : Char) : Option Nat :=
  if '0' ≤ c && c ≤ '9' then some (c.toNat - '0'.toNat)
  else if 'a' ≤ c && c ≤ 'f' then some (c.toNat - 'a'.toNat + 10)
  else if 'A' ≤ c && c ≤ 'F' then some (c.toNat - 'A'.toNat + 10)
  else none

/-- The number of bytes of a character by its first byte. -/
def byteCount? (b : Nat) : Option Nat :=
  if b < 0x80 then some 1
  else if 0xC0 ≤ b && b < 0xE0 then some 2
  else if 0xE0 ≤ b && b < 0xF0 then some 3
  else if 0xF0 ≤ b && b < 0xF8 then some 4
  else none

/-- The bytes of a tag, of which some may be written as a percent sign and two digits. The escaped
bytes of one character stand next to each other; the number says how many of them are still due. -/
def tagBytes? : Nat → List Char → Option (List UInt8)
  | due, '%' :: a :: b :: cs => do
    let n := 16 * (← hexDigit? a) + (← hexDigit? b)
    let due ← if due = 0 then (byteCount? n).map (· - 1)
      else if 0x80 ≤ n && n < 0xC0 then some (due - 1) else none
    return UInt8.ofNat n :: (← tagBytes? due cs)
  | 0, '%' :: _ => none
  | 0, c :: cs => do return c.toString.toUTF8.toList ++ (← tagBytes? 0 cs)
  | 0, [] => some []
  | _ + 1, _ => none

/-- The text of a tag with its escapes resolved. -/
def tagText? (cs : List Char) : Option String := do
  String.fromUTF8? ⟨(← tagBytes? 0 cs).toArray⟩

/-- Reads a handle: an exclamation mark, and perhaps a name and another exclamation mark. -/
def tagHandle? (c : Cursor) : Option (List Char × Cursor) :=
  match c.rest with
  | '!' :: _ =>
    let (name, c) := (c.skip 1).span isNameChar
    match c.rest with
    | '!' :: _ => some ('!' :: name ++ ['!'], c.skip 1)
    | _ => some ('!' :: name, c)
  | _ => none

/-- Reads a tag, which may be written in full between angle brackets, with a handle, or with an
exclamation mark alone. -/
def tag? (inFlow : Bool) (c : Cursor) : Option (Token × Cursor) := do
  let (token, c) ← match c.rest with
    | '!' :: '<' :: _ =>
      let (uri, c) := (c.skip 2).span (isTagChar true)
      match c.rest with
      | '>' :: _ =>
        if uri.isEmpty then none
        else (tagText? uri).map fun text => (Token.tag "" text, c.skip 1)
      | _ => none
    | _ => do
      let (handle, c) ← tagHandle? c
      let (rest, c) := c.span (isTagChar false)
      if 1 < handle.length && handle.getLast? = some '!' then
        if rest.isEmpty then none
        else (tagText? rest).map fun text => (Token.tag (String.ofList handle) text, c)
      else do
        let text ← tagText? (handle.drop 1 ++ rest)
        some (if text = "" then .tag "" "!" else .tag "!" text, c)
  if atBlank c.rest || (inFlow && c.rest.head? = some ',') then some (token, c) else none

/-! ## Directives -/

/-- Reads a number of a version, of at most nine digits. -/
def versionNumber? (c : Cursor) : Option (Nat × Cursor) :=
  let (digits, c) := c.span Char.isDigit
  if digits.isEmpty || 9 < digits.length then none
  else some (digits.foldl (fun n d => 10 * n + (d.toNat - '0'.toNat)) 0, c)

/-- Reads the two numbers of a version. -/
def version? (c : Cursor) : Option (Token × Cursor) := do
  let (major, c) ← versionNumber? c.skipSpacing
  match c.rest with
  | '.' :: _ =>
    let (minor, c) ← versionNumber? (c.skip 1)
    some (.version major minor, c)
  | _ => none

/-- Reads a handle for tags and what it stands for. -/
def handleDefinition? (c : Cursor) : Option (Token × Cursor) := do
  let (handle, c) ← tagHandle? c.skipSpacing
  if handle ≠ ['!'] && handle.getLast? ≠ some '!' then none
  else if !(c.rest.head?.any isSpacing) then none
  else
    let (uri, c) := c.skipSpacing.span (isTagChar true)
    if uri.isEmpty || !atBlank c.rest then none
    else (tagText? uri).map fun text => (.tagHandle (String.ofList handle) text, c)

/-- Reads a directive and the rest of its line. -/
def directive? (c : Cursor) : Option (Token × Cursor) := do
  let (name, c) := (c.skip 1).span isNameChar
  if !atBlank c.rest then none
  else
    let (token, c) ← match String.ofList name with
      | "YAML" => version? c
      | "TAG" => handleDefinition? c
      | _ => none
    return (token, ← c.skipLineEnd?)

end Telemetry.Yaml
