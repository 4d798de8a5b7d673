/-!
# Places in a text

Reading a document goes from character to character and keeps track of line and column. Before that,
`sourceChars?` refuses characters that no document may contain and brings line breaks to one form:
carriage returns and next-line characters become line feeds. The two Unicode separators remain; they
are line breaks too.
-/

namespace Telemetry.Yaml

/-- A character that a document may contain. -/
def isAllowed (c : Char) : Bool :=
  let n := c.toNat
  n = 9 || n = 10 || n = 13 || (0x20 ≤ n && n ≤ 0x7E) || n = 0x85 || (0xA0 ≤ n && n ≤ 0xD7FF)
    || (0xE000 ≤ n && n ≤ 0xFFFD) || 0x10000 ≤ n

/-- The byte order mark. -/
def byteOrderMark : Char := Char.ofNat 0xFEFF

/-- Brings line breaks to one form. -/
def unifyBreaks : List Char → List Char
  | '\r' :: '\n' :: cs => '\n' :: unifyBreaks cs
  | c :: cs => (if c = '\r' || c = Char.ofNat 0x85 then '\n' else c) :: unifyBreaks cs
  | [] => []

/-- The characters of a document, without a byte order mark at the beginning. -/
def sourceChars? (s : String) : Option (List Char) :=
  let cs := match s.toList with
    | c :: cs => if c = byteOrderMark then cs else c :: cs
    | [] => []
  if cs.all isAllowed then some (unifyBreaks cs) else none

/-- A line break. -/
def isBreak (c : Char) : Bool :=
  c = '\n' || c = Char.ofNat 0x2028 || c = Char.ofNat 0x2029

/-- A space or a tab. -/
def isSpacing (c : Char) : Bool :=
  c = ' ' || c = '\t'

/-- Whether a text ends here or goes on with white space. -/
def atBlank : List Char → Bool
  | [] => true
  | c :: _ => isSpacing c || isBreak c

/-- A character of the names of anchors and directives. -/
def isNameChar (c : Char) : Bool :=
  c.isAlphanum || c = '-' || c = '_'

/-- What is left of a text, and at which line and column it begins. -/
structure Cursor where
  rest : List Char
  line : Nat := 0
  column : Nat := 0

namespace Cursor

/-- Goes on by `n` characters, none of which is a line break. -/
def skip (c : Cursor) (n : Nat) : Cursor :=
  { c with rest := c.rest.drop n, column := c.column + n }

/-- Goes on past a line break. -/
def skipBreak (c : Cursor) : Cursor :=
  { rest := c.rest.drop 1, line := c.line + 1, column := 0 }

/-- The characters up to the first that fails a test; none of them may be a line break. -/
def span (c : Cursor) (p : Char → Bool) : List Char × Cursor :=
  let run := c.rest.takeWhile p
  (run, c.skip run.length)

/-- Goes on past spaces and tabs. -/
def skipSpacing (c : Cursor) : Cursor :=
  (c.span isSpacing).2

/-- Goes on past a comment, if one begins here. -/
def skipComment (c : Cursor) : Cursor :=
  match c.rest with
  | '#' :: _ => (c.span fun ch => !isBreak ch).2
  | _ => c

/-- Goes on past the rest of a line, which may only hold a comment. -/
def skipLineEnd? (c : Cursor) : Option Cursor :=
  let c := c.skipSpacing.skipComment
  match c.rest with
  | [] => some c
  | ch :: _ => if isBreak ch then some c.skipBreak else none

/-- Whether a line with three dashes or three dots begins here, which ends a document. -/
def atDocumentMark (c : Cursor) : Bool :=
  c.column = 0 && match c.rest with
    | '-' :: '-' :: '-' :: cs => atBlank cs
    | '.' :: '.' :: '.' :: cs => atBlank cs
    | _ => false

end Cursor

end Telemetry.Yaml
