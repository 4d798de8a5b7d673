import Telemetry.Yaml.Token

/-!
# Scalars

Scalars are written plain, between quotes, or as a block of indented lines. In plain and quoted
scalars the white space between two words counts as it stands, unless it has line breaks: then one
line break counts as a space, and of several all but the first count. In folded blocks the same
holds for lines that are indented alike.
-/

namespace Telemetry.Yaml

/-! ## White space between words -/

/-- The white space between two words of a scalar. -/
structure Gap where
  /-- The spaces and tabs before the first line break. -/
  spacing : List Char := []
  /-- The line breaks. -/
  breaks : List Char := []
  /-- Whether an escaped line break came before, which makes all that follows count as it stands. -/
  joined : Bool := false

namespace Gap

/-- Whether a line break came already. -/
def hasBreak (g : Gap) : Bool :=
  g.joined || !g.breaks.isEmpty

/-- What a gap counts as. -/
def text (g : Gap) : List Char :=
  if g.joined then g.breaks
  else match g.breaks with
    | [] => g.spacing
    | ['\n'] => [' ']
    | '\n' :: more => more
    | breaks => breaks

/-- Reads a gap. Tabs may not stand at the beginning of a line to the left of the column
`indent`. -/
def read? (indent : Nat) (g : Gap) (line column : Nat) : List Char → Option (Gap × Cursor)
  | [] => some (g, ⟨[], line, column⟩)
  | c :: cs =>
    if isSpacing c then
      if g.hasBreak then
        if column < indent && c = '\t' then none else read? indent g line (column + 1) cs
      else read? indent { g with spacing := g.spacing ++ [c] } line (column + 1) cs
    else if isBreak c then
      read? indent { g with breaks := g.breaks ++ [c] } (line + 1) 0 cs
    else some (g, ⟨c :: cs, line, column⟩)

end Gap

/-! ## Plain scalars -/

/-- Whether a plain scalar ends before the given characters, because an indicator begins there. -/
def endsPlain (inFlow : Bool) : List Char → Bool
  | ':' :: cs => atBlank cs
  | c :: _ => inFlow && [',', '[', ']', '\x7b', '\x7d'].contains c
  | [] => false

/-- Whether a colon stands where it can neither end a key nor belong to a plain scalar. -/
def isStrayColon (inFlow : Bool) : List Char → Bool
  | ':' :: c :: _ => inFlow && [',', '?', '[', ']', '\x7b', '\x7d'].contains c
  | _ => false

/-- Reads a word of a plain scalar. -/
def plainWord? (inFlow : Bool) : List Char → Option (List Char)
  | [] => some []
  | c :: cs =>
    if isSpacing c || isBreak c then some []
    else if isStrayColon inFlow (c :: cs) then none
    else if endsPlain inFlow (c :: cs) then some []
    else (plainWord? inFlow cs).map (c :: ·)

/-- Reads the words of a plain scalar; the gap is the one in front of the next word, and `text` what
was read before it. Also says whether the scalar ends after a line break. -/
def plainWords? (inFlow : Bool) (indent : Nat) :
    Nat → List Char → Gap → Cursor → Option (List Char × Bool × Cursor)
  | 0, _, _, _ => none
  | fuel + 1, text, gap, c =>
    if c.atDocumentMark || c.rest.head? = some '#' then some (text, gap.hasBreak, c)
    else do
      let word ← plainWord? inFlow c.rest
      if word.isEmpty then some (text, gap.hasBreak, c)
      else
        let text := text ++ gap.text ++ word
        let c := c.skip word.length
        if !c.rest.isEmpty && atBlank c.rest then do
          let (gap, c) ← Gap.read? indent {} c.line c.column c.rest
          if !inFlow && c.column < indent then some (text, gap.hasBreak, c)
          else plainWords? inFlow indent fuel text gap c
        else some (text, false, c)

/-- Reads a plain scalar. Its lines must begin at the column `indent` or to the right of it. -/
def plain? (inFlow : Bool) (indent : Nat) (c : Cursor) : Option (Token × Bool × Cursor) :=
  (plainWords? inFlow indent (c.rest.length + 1) [] {} c).map fun (text, atLineStart, c) =>
    (.scalar true (String.ofList text), atLineStart, c)

/-! ## Quoted scalars -/

/-- How a run of characters between quotes ends. -/
inductive QuoteEnd where
  /-- With the closing quote. -/
  | closed
  /-- With a line break that is escaped. -/
  | joined
  /-- With white space, or with the text. -/
  | blank
  deriving DecidableEq

/-- Reads characters between single quotes, up to white space or the closing quote; a quote inside
is written twice. -/
def singleRun (column : Nat) : List Char → List Char × QuoteEnd × Nat × List Char
  | '\'' :: '\'' :: cs =>
    let (run, rest) := singleRun (column + 2) cs
    ('\'' :: run, rest)
  | '\'' :: cs => ([], .closed, column + 1, cs)
  | c :: cs =>
    if isSpacing c || isBreak c then ([], .blank, column, c :: cs)
    else
      let (run, rest) := singleRun (column + 1) cs
      (c :: run, rest)
  | [] => ([], .blank, column, [])

/-- What comes next between double quotes. -/
inductive EscapeState where
  | none
  /-- After a backslash. -/
  | begun
  /-- In the number of a character: how many digits are to come after the next one, and the value so
  far. -/
  | number (more value : Nat)

/-- The character for which a letter stands after a backslash. -/
def escapedChar? (c : Char) : Option Char :=
  match c with
  | '0' => some (Char.ofNat 0)
  | 'a' => some (Char.ofNat 7)
  | 'b' => some (Char.ofNat 8)
  | 't' => some '\t'
  | '\t' => some '\t'
  | 'n' => some '\n'
  | 'v' => some (Char.ofNat 11)
  | 'f' => some (Char.ofNat 12)
  | 'r' => some '\r'
  | 'e' => some (Char.ofNat 27)
  | ' ' => some ' '
  | '"' => some '"'
  | '/' => some '/'
  | '\\' => some '\\'
  | 'N' => some (Char.ofNat 0x85)
  | '_' => some (Char.ofNat 0xA0)
  | 'L' => some (Char.ofNat 0x2028)
  | 'P' => some (Char.ofNat 0x2029)
  | _ => none

/-- How many digits of the number of a character follow a letter after a backslash. -/
def escapeDigits? (c : Char) : Option Nat :=
  if c = 'x' then some 2 else if c = 'u' then some 4 else if c = 'U' then some 8 else none

/-- The character with a number, if there is one. -/
def charOf? (n : Nat) : Option Char :=
  if h : n.isValidChar then some (Char.ofNatAux n h) else none

/-- Reads characters between double quotes, up to white space, the closing quote or an escaped line
break. -/
def doubleRun? (column : Nat) :
    EscapeState → List Char → Option (List Char × QuoteEnd × Nat × List Char)
  | .none, [] => some ([], .blank, column, [])
  | .none, c :: cs =>
    if c = '"' then some ([], .closed, column + 1, cs)
    else if c = '\\' then doubleRun? (column + 1) .begun cs
    else if isSpacing c || isBreak c then some ([], .blank, column, c :: cs)
    else (doubleRun? (column + 1) .none cs).map fun (run, rest) => (c :: run, rest)
  | .begun, c :: cs =>
    if isBreak c then some ([], .joined, column, c :: cs)
    else match escapedChar? c, escapeDigits? c with
      | some e, _ => (doubleRun? (column + 1) .none cs).map fun (run, rest) => (e :: run, rest)
      | none, some n => doubleRun? (column + 1) (.number (n - 1) 0) cs
      | none, none => none
  | .number more value, c :: cs => do
    let value := 16 * value + (← hexDigit? c)
    match more with
    | 0 => do
      let e ← charOf? value
      let (run, rest) ← doubleRun? (column + 1) .none cs
      some (e :: run, rest)
    | more + 1 => doubleRun? (column + 1) (.number more value) cs
  | _, [] => none

/-- Reads what stands between quotes, after the opening one. -/
def quotedWords? (isSingle : Bool) : Nat → List Char → Cursor → Option (List Char × Cursor)
  | 0, _, _ => none
  | fuel + 1, text, c =>
    if c.atDocumentMark || c.rest.isEmpty then none
    else do
      let (run, ending, column, rest) ←
        if isSingle then some (singleRun c.column c.rest) else doubleRun? c.column .none c.rest
      let c : Cursor := ⟨rest, c.line, column⟩
      match ending with
      | .closed => some (text ++ run, c)
      | .joined => do
        let c := c.skipBreak
        let (gap, c) ← Gap.read? 0 { joined := true } c.line c.column c.rest
        quotedWords? isSingle fuel (text ++ run ++ gap.text) c
      | .blank => do
        let (gap, c) ← Gap.read? 0 {} c.line c.column c.rest
        quotedWords? isSingle fuel (text ++ run ++ gap.text) c

/-- Reads a quoted scalar. -/
def quoted? (isSingle : Bool) (c : Cursor) : Option (Token × Cursor) :=
  (quotedWords? isSingle (c.rest.length + 1) [] (c.skip 1)).map fun (text, c) =>
    (.scalar false (String.ofList text), c)

/-! ## Block scalars -/

/-- What happens to the line breaks at the end of a block. -/
inductive Chomping where
  /-- One is kept. -/
  | clip
  /-- None is kept. -/
  | strip
  /-- All are kept. -/
  | keep
  deriving DecidableEq

/-- The chomping that a character asks for. -/
def Chomping.ofChar? (c : Char) : Option Chomping :=
  if c = '+' then some .keep else if c = '-' then some .strip else none

/-- The indentation that a character asks for. Zero is refused; it stands for no indentation being
asked for. -/
def indentOf? (cs : List Char) : Option (Nat × List Char) :=
  match cs with
  | c :: rest =>
    if c = '0' then none
    else if c.isDigit then some (c.toNat - '0'.toNat, rest)
    else some (0, cs)
  | [] => some (0, [])

/-- Reads what follows the indicator of a block: chomping and indentation in any order, either of
which may be missing. -/
def blockHeader? (cs : List Char) : Option (Chomping × Nat × List Char) :=
  match cs.head?.bind Chomping.ofChar? with
  | some chomping => (indentOf? (cs.drop 1)).map fun (n, rest) => (chomping, n, rest)
  | none => do
    let (n, rest) ← indentOf? cs
    match rest.head?.bind Chomping.ofChar? with
    | some chomping => some (chomping, n, rest.drop 1)
    | none => some (.clip, n, rest)

/-- The empty lines in front of a line of a block. -/
structure BlockBreaks where
  breaks : List Char
  /-- The largest column at which an empty line, or the line after them, ends or begins. -/
  widest : Nat
  cursor : Cursor

/-- Reads empty lines. Spaces are skipped up to the column `indent`, or all if it is zero; a tab to
the left of it is refused. -/
def blockBreaks? (indent : Nat) (breaks : List Char) (widest line column : Nat) :
    List Char → Option BlockBreaks
  | [] => some ⟨breaks, max widest column, ⟨[], line, column⟩⟩
  | c :: cs =>
    let inIndent := indent = 0 || column < indent
    if inIndent && c = ' ' then blockBreaks? indent breaks widest line (column + 1) cs
    else if inIndent && c = '\t' then none
    else if isBreak c then
      blockBreaks? indent (breaks ++ [c]) (max widest column) (line + 1) 0 cs
    else some ⟨breaks, max widest column, ⟨c :: cs, line, column⟩⟩

/-- The empty lines at a place. -/
def Cursor.blockBreaks? (c : Cursor) (indent : Nat) : Option BlockBreaks :=
  Yaml.blockBreaks? indent [] 0 c.line c.column c.rest

/-- Reads the lines of a block. `ending` is the line break at the end of the line before, `breaks`
are those of the empty lines after it, and `afterBlank` says that the line before began with white
space. -/
def blockLines? (isLiteral : Bool) (chomping : Chomping) (indent : Nat) :
    Nat → List Char → List Char → List Char → Bool → Cursor → Option (List Char × Cursor)
  | 0, _, _, _, _, _ => none
  | fuel + 1, text, ending, breaks, afterBlank, c =>
    if c.column = indent && !c.rest.isEmpty then
      let startsBlank := c.rest.head?.any isSpacing
      let folds := !isLiteral && ending.head? = some '\n' && !afterBlank && !startsBlank
      let between := if folds then (if breaks.isEmpty then [' '] else []) else ending
      let (line, c) := c.span fun ch => !isBreak ch
      let text := text ++ between ++ breaks ++ line
      let (ending, c) := match c.rest with
        | [] => ([], c)
        | ch :: _ => ([ch], c.skipBreak)
      do
        let next ← c.blockBreaks? indent
        blockLines? isLiteral chomping indent fuel text ending next.breaks startsBlank next.cursor
    else
      let tail := match chomping with
        | .strip => []
        | .clip => ending
        | .keep => ending ++ breaks
      some (text ++ tail, c)

/-- Reads a block scalar. `outer` is the column of the block collection around it, if there is
one. -/
def block? (isLiteral : Bool) (outer : Option Nat) (c : Cursor) : Option (Token × Cursor) := do
  let header := (c.skip 1)
  let (chomping, width, rest) ← blockHeader? header.rest
  let c ← (header.skip (header.rest.length - rest.length)).skipLineEnd?
  let given := if width = 0 then 0 else outer.getD 0 + width
  let first ← c.blockBreaks? given
  let least := match outer with
    | some n => n + 1
    | none => 1
  let indent := if width = 0 then max first.widest least else given
  let (text, c) ← blockLines? isLiteral chomping indent (c.rest.length + 1) [] [] first.breaks false
    first.cursor
  some (.scalar false (String.ofList text), c)

end Telemetry.Yaml
