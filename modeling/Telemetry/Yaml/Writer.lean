import Telemetry.Tree
import Telemetry.Number.Shortest
import Telemetry.Text.Replace
import Telemetry.Yaml.Plain

/-!
# Writing YAML

A tree is written in block style: an entry of a table or an item of a list takes a line of its own,
tables are indented by two columns, and lists stand in the column of the key above them. Empty
tables and lists are written in flow style. Lines are never folded.

A text is written plain where it reads back as itself. One with a line feed becomes a literal
block, otherwise single quotes are taken, and double quotes where characters must be escaped. A key
of more than 128 bytes or with a line break is written as an explicit key, behind a question mark.
-/

namespace Telemetry.Yaml

/-- A character that ends a line. -/
def endsLine (c : Char) : Bool :=
  c = '\n' || c = '\r' || c.toNat = 0x85 || c.toNat = 0x2028 || c.toNat = 0x2029

/-- A space, a tab or a line break. -/
def isBlankOrBreak (c : Char) : Bool :=
  c = ' ' || c = '\t' || endsLine c

/-- A character that may stand unescaped. -/
def isPrintable (c : Char) : Bool :=
  let n := c.toNat
  n = 0x0A || (0x20 ≤ n && n ≤ 0x7E) || (0xA0 ≤ n && n ≤ 0xD7FF)
    || (0xE000 ≤ n && n ≤ 0xFFFD && n ≠ 0xFEFF) || 0x10000 ≤ n

/-- How a text is written. -/
inductive ScalarStyle where
  | plain
  | singleQuoted
  | doubleQuoted
  | literal
  deriving DecidableEq, Repr

/-! ## What a text allows -/

/-- Whether some two neighbours in a text satisfy a relation. -/
def hasNeighbours (r : Char → Char → Bool) : List Char → Bool
  | a :: b :: rest => r a b || hasNeighbours r (b :: rest)
  | _ => false

/-- A character that gives a scalar another meaning where it stands first. -/
def isLeadingIndicator (c : Char) : Bool :=
  ['#', ',', '[', ']', '\x7b', '\x7d', '&', '*', '!', '|', '>', '\'', '"', '%', '@',
    Char.ofNat 0x60].contains c

/-- Whether a text holds what ends or turns a plain scalar in a block. -/
def hasIndicators (cs : List Char) : Bool :=
  let first := match cs with
    | [] => false
    | c :: rest =>
      let spaced := match rest with
        | [] => true
        | d :: _ => isBlankOrBreak d
      isLeadingIndicator c || ((c = '?' || c = ':' || c = '-') && spaced)
  let marked := ['-', '-', '-'].isPrefixOf cs || ['.', '.', '.'].isPrefixOf cs
  let inner := cs.drop 1
  let colon := hasNeighbours (fun a b => a = ':' && isBlankOrBreak b) inner
    || inner.getLast? = some ':'
  let comment := hasNeighbours (fun a b => isBlankOrBreak a && b = '#') cs
  first || marked || colon || comment

/-- Whether the first or the last character is a space or a line break. -/
def hasOuterSpace (cs : List Char) : Bool :=
  let outer (c : Option Char) : Bool := c.any (fun c => c = ' ' || endsLine c)
  outer cs.head? || outer cs.getLast?

/-- Whether a text has a character to escape, or a space in front of a line break. -/
def needsEscapes (cs : List Char) : Bool :=
  cs.any (fun c => !isPrintable c) || hasNeighbours (fun a b => a = ' ' && endsLine b) cs

/-- Whether a text may be written plain. -/
def allowsPlain (cs : List Char) : Bool :=
  !(hasOuterSpace cs || needsEscapes cs || cs.any endsLine || hasIndicators cs)

/-- Whether a text may be written between single quotes. -/
def allowsSingleQuotes (cs : List Char) : Bool :=
  !(needsEscapes cs || hasNeighbours (fun a b => endsLine a && b = ' ') cs)

/-- Whether a text may be written as a literal block. -/
def allowsLiteral (cs : List Char) : Bool :=
  !(cs.isEmpty || needsEscapes cs || cs.getLast? = some ' ')

/-- How a text is written. -/
def scalarStyle (s : String) : ScalarStyle :=
  let cs := s.toList
  if cs.contains '\n' then
    if allowsLiteral cs then .literal else .doubleQuoted
  else if isText s && allowsPlain cs then .plain
  else if allowsSingleQuotes cs then .singleQuoted
  else .doubleQuoted

/-! ## Scalars -/

/-- A number in upper-case hexadecimal with a fixed number of digits. -/
def hexFixed (width n : Nat) : List Char :=
  (List.range width).map fun i =>
    let d := n / Nat.pow 16 (width - 1 - i) % 16
    if d < 10 then Char.ofNat (0x30 + d) else Char.ofNat (0x37 + d)

/-- The letter that escapes a character, if it has one. -/
def escapeLetter? (n : Nat) : Option Char :=
  [(0x00, '0'), (0x07, 'a'), (0x08, 'b'), (0x09, 't'), (0x0A, 'n'), (0x0B, 'v'), (0x0C, 'f'),
   (0x0D, 'r'), (0x1B, 'e'), (0x22, '"'), (0x5C, '\\'), (0x85, 'N'), (0xA0, '_'), (0x2028, 'L'),
   (0x2029, 'P')].lookup n

/-- A character between double quotes. -/
def doubleQuotedChar (c : Char) : List Char :=
  let n := c.toNat
  if !isPrintable c || endsLine c || c = '"' || c = '\\' then
    match escapeLetter? n with
    | some l => ['\\', l]
    | none =>
      if n ≤ 0xFF then '\\' :: 'x' :: hexFixed 2 n
      else if n ≤ 0xFFFF then '\\' :: 'u' :: hexFixed 4 n
      else '\\' :: 'U' :: hexFixed 8 n
  else [c]

/-- A text between double quotes. -/
def doubleQuoted (cs : List Char) : List Char :=
  '"' :: (cs.flatMap doubleQuotedChar ++ ['"'])

/-- The inner part of a single-quoted text; after a line break the next line is indented. -/
def singleQuotedFrom (indent : Nat) : Bool → List Char → List Char
  | broken, [] => if broken then List.replicate indent ' ' else []
  | broken, c :: cs =>
    if endsLine c then c :: singleQuotedFrom indent true cs
    else
      let pad := if broken then List.replicate indent ' ' else []
      let spelled := if c = '\'' then ['\'', '\''] else [c]
      pad ++ spelled ++ singleQuotedFrom indent false cs

/-- A text between single quotes. -/
def singleQuoted (indent : Nat) (cs : List Char) : List Char :=
  '\'' :: (singleQuotedFrom indent false cs ++ ['\''])

/-- What follows the bar of a literal block: the indentation where the text itself begins with
space, and how its last line ends. -/
def literalHints (cs : List Char) : List Char :=
  let indentation := if cs.head?.any (fun c => c = ' ' || endsLine c) then ['2'] else []
  let ending := match cs.reverse with
    | [] => ['-']
    | [c] => if endsLine c then ['+'] else ['-']
    | c :: d :: _ => if endsLine c then (if endsLine d then ['+'] else []) else ['-']
  indentation ++ ending

/-- The lines of a literal block; an empty line is not indented. -/
def literalFrom (indent : Nat) : Bool → List Char → List Char
  | _, [] => []
  | start, c :: cs =>
    if endsLine c then c :: literalFrom indent true cs
    else (if start then List.replicate indent ' ' else []) ++ c :: literalFrom indent false cs

/-- A text as a literal block. -/
def literal (indent : Nat) (cs : List Char) : List Char :=
  '|' :: literalHints cs ++ '\n' :: literalFrom indent true cs

/-- A text in its style, the continuation lines indented. -/
def writeText (indent : Nat) (s : String) : List Char :=
  let cs := s.toList
  match scalarStyle s with
  | .plain => cs
  | .singleQuoted => singleQuoted indent cs
  | .doubleQuoted => doubleQuoted cs
  | .literal => literal indent cs

/-- A number that is not whole. -/
def writeReal (negative : Bool) : Magnitude → String
  | .finite units => (if negative then "-" else "") ++ (Magnitude.shortest units).floating
  | .infinite => (if negative then "-" else "") ++ ".inf"

/-- A whole number. -/
def writeInt : Int → String
  | .ofNat n => Text.decimal n
  | .negSucc n => "-" ++ Text.decimal (n + 1)

/-- Ends a line unless the text has ended one already. -/
def endLine (cs : List Char) : List Char :=
  if cs.getLast?.any endsLine then cs else cs ++ ['\n']

/-- A scalar or an empty collection, to the end of its line. -/
def writeScalar (indent : Nat) : Tree → List Char
  | .null => "null\n".toList
  | .bool b => (if b then "true\n" else "false\n").toList
  | .int n => (writeInt n ++ "\n").toList
  | .real negative m => (writeReal negative m ++ "\n").toList
  | .text s => endLine (writeText indent s)
  | .list _ => "[]\n".toList
  | .sorted _ => "\x7b\x7d\n".toList

/-- Whether a key may stand in front of its colon without a question mark. -/
def isSimpleKey (k : String) : Bool :=
  !k.toList.any endsLine && k.utf8ByteSize ≤ 128

/-! ## Trees -/

/-- Puts the parts of a collection below each other. The first is already in its column. -/
def stackFrom (indent : Nat) : List (List Char) → List Char
  | [] => []
  | p :: ps => p ++ ps.flatMap (List.replicate indent ' ' ++ ·)

/-- Puts the parts of a collection on lines of their own. -/
def stack (indent : Nat) (parts : List (List Char)) : List Char :=
  parts.flatMap (List.replicate indent ' ' ++ ·)

mutual

/-- The entries of a table or the items of a list at some indentation, each up to the end of its
last line and without the indentation of its first; for any other tree, its one line. -/
def parts (indent : Nat) : Tree → List (List Char)
  | .sorted (e :: es) => entryParts indent (e :: es)
  | .list (x :: xs) => itemParts indent (x :: xs)
  | t => [writeScalar indent t]

def entryParts (indent : Nat) : List (String × Tree) → List (List Char)
  | [] => []
  | (k, v) :: rest =>
    let entry :=
      if isSimpleKey k then writeText (indent + 2) k ++ ':' :: afterKey indent v
      else ['?', ' '] ++ endLine (writeText (indent + 2) k) ++ List.replicate indent ' '
        ++ [':', ' '] ++ stackFrom (indent + 2) (parts (indent + 2) v)
    entry :: entryParts indent rest

def itemParts (indent : Nat) : List Tree → List (List Char)
  | [] => []
  | x :: rest =>
    (['-', ' '] ++ stackFrom (indent + 2) (parts (indent + 2) x)) :: itemParts indent rest

/-- The value of a simple key: on the line of the key, or on lines below it. -/
def afterKey (indent : Nat) : Tree → List Char
  | .sorted (e :: es) => '\n' :: stack (indent + 2) (entryParts (indent + 2) (e :: es))
  | .list (x :: xs) => '\n' :: stack indent (itemParts indent (x :: xs))
  | t => ' ' :: writeScalar (indent + 2) t

end

/-- The document of a tree. -/
def write (t : Tree) : String :=
  String.ofList (stackFrom 0 (parts 0 t))

end Telemetry.Yaml
