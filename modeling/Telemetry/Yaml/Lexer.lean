import Telemetry.Yaml.Scalar

/-!
# Reading tokens

`tokens?` splits a document into tokens. Two things make this more than splitting. A block
collection begins where a line is indented more than the collection around it, and ends where a
line is indented less. And a mapping need not announce its keys: whether a token was a key shows
only at the colon behind it, so that places where a key may have begun are remembered, one for each
flow collection that is open, and the token for the key is put in at that place afterwards. A key
must end on its line and within 1024 characters.
-/

namespace Telemetry.Yaml

/-- A place where a key may have begun. -/
structure PendingKey where
  /-- The number of tokens before the place. -/
  count : Nat
  line : Nat
  column : Nat
  /-- Whether nothing but a key can stand there. -/
  required : Bool

/-- The state of reading tokens. -/
structure Lexer where
  cursor : Cursor
  /-- The columns of the open block collections, the innermost first. -/
  indents : List Nat := []
  /-- Whether a key may begin here. -/
  keyAllowed : Bool := true
  /-- The place where a key may have begun, in the innermost collection. -/
  pending : Option PendingKey := none
  /-- The same for the collections around the open flow collections, the innermost first. -/
  outer : List (Option PendingKey) := []
  /-- The tokens that were read, the last first. -/
  read : List Token := []

namespace Lexer

/-- Whether a flow collection is open. -/
def inFlow (l : Lexer) : Bool :=
  !l.outer.isEmpty

/-- Adds a token. -/
def push (l : Lexer) (t : Token) : Lexer :=
  { l with read := t :: l.read }

/-- Adds a token behind the first `count` tokens. -/
def insertAt (l : Lexer) (count : Nat) (t : Token) : Lexer :=
  let later := l.read.length - count
  { l with read := l.read.take later ++ t :: l.read.drop later }

/-- Goes on by some characters. -/
def skip (l : Lexer) (n : Nat) : Lexer :=
  { l with cursor := l.cursor.skip n }

/-! ## Indentation -/

/-- The column to the right of the innermost block collection. -/
def minColumn (l : Lexer) : Nat :=
  match l.indents with
  | n :: _ => n + 1
  | [] => 0

/-- Begins a block collection at a column if that is to the right of the innermost one; its token is
put behind the first `count` tokens. -/
def indent (l : Lexer) (column count : Nat) (t : Token) : Lexer :=
  if !l.inFlow && l.minColumn ≤ column then
    { l with indents := column :: l.indents }.insertAt count t
  else l

/-- Ends the block collections that satisfy a test, from the innermost on. -/
def unindent (l : Lexer) (ends : Nat → Bool) : Lexer :=
  if l.inFlow then l
  else
    let ended := l.indents.takeWhile ends
    { l with
      indents := l.indents.dropWhile ends
      read := List.replicate ended.length .blockEnd ++ l.read }

/-- Ends all block collections. -/
def unindentAll (l : Lexer) : Lexer :=
  l.unindent fun _ => true

/-! ## Keys -/

/-- Forgets a place where a key may have begun, unless a key is required there. -/
def PendingKey.drop? : Option PendingKey → Option (Option PendingKey)
  | some k => if k.required then none else some none
  | none => some none

/-- Forgets the place where a key may have begun in the innermost collection. -/
def dropKey? (l : Lexer) : Option Lexer :=
  (PendingKey.drop? l.pending).map fun k => { l with pending := k }

/-- Whether no key that began at a place can still end here. -/
def isStale (l : Lexer) (k : PendingKey) : Bool :=
  k.line < l.cursor.line || k.column + 1024 < l.cursor.column

/-- Forgets a place if no key can have begun there any more. -/
def dropIfStale? (l : Lexer) : Option PendingKey → Option (Option PendingKey)
  | some k => if l.isStale k then PendingKey.drop? (some k) else some (some k)
  | none => some none

/-- Forgets all places where no key can have begun any more. -/
def dropStaleKeys? (l : Lexer) : Option Lexer := do
  return { l with
    pending := ← l.dropIfStale? l.pending
    outer := ← l.outer.mapM l.dropIfStale? }

/-- Remembers that a key may begin here. -/
def saveKey? (l : Lexer) : Option Lexer :=
  if l.keyAllowed then do
    let l ← l.dropKey?
    let required := !l.inFlow && l.indents.head? = some l.cursor.column
    return { l with
      pending := some ⟨l.read.length, l.cursor.line, l.cursor.column, required⟩ }
  else some l

/-! ## Between tokens -/

/-- Goes on past a byte order mark at the beginning of a line. -/
def skipMark (c : Cursor) : Cursor :=
  if c.column = 0 && c.rest.head? = some byteOrderMark then c.skip 1 else c

/-- Goes on to the next token, past white space, comments and line breaks. Tabs may stand only where
no key can begin. A line break allows a key in block collections. -/
def skipToToken? (inFlow : Bool) : Nat → Bool → Cursor → Option (Bool × Cursor)
  | 0, _, _ => none
  | fuel + 1, keyAllowed, c =>
    let isGap (ch : Char) : Bool := ch = ' ' || (ch = '\t' && (inFlow || !keyAllowed))
    let c := ((skipMark c).span isGap).2.skipComment
    match c.rest with
    | ch :: _ =>
      if isBreak ch then skipToToken? inFlow fuel (keyAllowed || !inFlow) c.skipBreak
      else some (keyAllowed, c)
    | [] => some (keyAllowed, c)

/-- Goes on to the next token and ends the block collections to the left of which it stands. -/
def advance? (l : Lexer) : Option Lexer := do
  let (keyAllowed, c) ←
    skipToToken? l.inFlow (l.cursor.rest.length + 1) l.keyAllowed l.cursor
  let l ← { l with keyAllowed := keyAllowed, cursor := c }.dropStaleKeys?
  return l.unindent fun n => c.column < n

/-! ## Tokens -/

/-- A directive, which ends all block collections. -/
def directive? (l : Lexer) : Option Lexer := do
  let l ← l.unindentAll.dropKey?
  let (t, c) ← Yaml.directive? l.cursor
  return { l.push t with keyAllowed := false, cursor := c }

/-- A mark between documents, which ends all block collections. -/
def documentMark? (l : Lexer) (t : Token) : Option Lexer := do
  let l ← l.unindentAll.dropKey?
  return { (l.push t).skip 3 with keyAllowed := false }

/-- The beginning of a flow collection. -/
def openFlow? (l : Lexer) (t : Token) : Option Lexer := do
  let l ← l.saveKey?
  return { (l.push t).skip 1 with
    outer := l.pending :: l.outer, pending := none, keyAllowed := true }

/-- The end of a flow collection. -/
def closeFlow? (l : Lexer) (t : Token) : Option Lexer := do
  let l ← l.dropKey?
  let l := { (l.push t).skip 1 with keyAllowed := false }
  match l.outer with
  | k :: outer => return { l with pending := k, outer := outer }
  | [] => return l

/-- A comma. -/
def flowEntry? (l : Lexer) : Option Lexer := do
  let l ← l.dropKey?
  return { (l.push .flowEntry).skip 1 with keyAllowed := true }

/-- Begins a block collection here for an indicator, where one may begin. -/
def indentHere? (l : Lexer) (t : Token) : Option Lexer :=
  if l.inFlow then some l
  else if l.keyAllowed then some (l.indent l.cursor.column l.read.length t)
  else none

/-- A dash in front of an entry. -/
def blockEntry? (l : Lexer) : Option Lexer := do
  let l ← l.indentHere? .blockSequence
  let l ← l.dropKey?
  return { (l.push .blockEntry).skip 1 with keyAllowed := true }

/-- A question mark in front of a key. -/
def explicitKey? (l : Lexer) : Option Lexer := do
  let l ← l.indentHere? .blockMapping
  let l ← l.dropKey?
  return { (l.push .key).skip 1 with keyAllowed := !l.inFlow }

/-- A colon in front of a value, which makes a key of what stands before it. -/
def value? (l : Lexer) : Option Lexer :=
  match l.pending with
  | some k =>
    let l := (l.insertAt k.count .key).indent k.column k.count .blockMapping
    some { (l.push .value).skip 1 with pending := none, keyAllowed := false }
  | none => do
    let l ← l.indentHere? .blockMapping
    return { (l.push .value).skip 1 with keyAllowed := !l.inFlow }

/-- A token that can be part of a key, read by a function from the place here. -/
def keyPart? (l : Lexer) (read : Cursor → Option (Token × Cursor)) : Option Lexer := do
  let l ← l.saveKey?
  let (t, c) ← read l.cursor
  return { l.push t with keyAllowed := false, cursor := c }

/-- A plain scalar. -/
def plainScalar? (l : Lexer) : Option Lexer := do
  let l ← l.saveKey?
  let (t, atLineStart, c) ← plain? l.inFlow l.minColumn l.cursor
  return { l.push t with keyAllowed := atLineStart, cursor := c }

/-- A block scalar. -/
def blockScalar? (l : Lexer) (isLiteral : Bool) : Option Lexer := do
  let l ← l.dropKey?
  let (t, c) ← block? isLiteral l.indents.head? l.cursor
  return { l.push t with keyAllowed := true, cursor := c }

/-- Characters with which no plain scalar begins. -/
def indicators : List Char :=
  ['-', '?', ':', ',', '[', ']', '\x7b', '\x7d', '#', '&', '*', '!', '|', '>', '\'', '"', '%', '@',
    Char.ofNat 0x60]

/-- Whether a plain scalar begins with the given characters. -/
def startsPlain (inFlow : Bool) : List Char → Bool
  | '-' :: c :: _ => !isSpacing c
  | '-' :: [] => true
  | '?' :: cs => !inFlow && !atBlank cs
  | ':' :: cs => !inFlow && !atBlank cs
  | c :: _ => !isSpacing c && !indicators.contains c
  | [] => false

/-- Reads the token that begins here. -/
def token? (l : Lexer) : Option Lexer :=
  let c := l.cursor
  let rest := c.rest
  let after := rest.drop 1
  let isIndicator := l.inFlow || atBlank after
  match rest.head? with
  | none => none
  | some ch =>
    if c.column = 0 && ch = '%' then l.directive?
    else if c.atDocumentMark then
      l.documentMark? (if ch = '-' then .documentStart else .documentEnd)
    else if ch = '[' then l.openFlow? .flowSequence
    else if ch = '\x7b' then l.openFlow? .flowMapping
    else if ch = ']' then l.closeFlow? .flowSequenceEnd
    else if ch = '\x7d' then l.closeFlow? .flowMappingEnd
    else if ch = ',' then l.flowEntry?
    else if ch = '-' && atBlank after then l.blockEntry?
    else if ch = '?' && isIndicator then l.explicitKey?
    else if ch = ':' && isIndicator then l.value?
    else if ch = '*' then
      l.keyPart? fun c => (anchorName? (c.skip 1)).map fun (n, c) => (.alias n, c)
    else if ch = '&' then
      l.keyPart? fun c => (anchorName? (c.skip 1)).map fun (n, c) => (.anchor n, c)
    else if ch = '!' then l.keyPart? (tag? l.inFlow)
    else if ch = '|' && !l.inFlow then l.blockScalar? true
    else if ch = '>' && !l.inFlow then l.blockScalar? false
    else if ch = '\'' then l.keyPart? (quoted? true)
    else if ch = '"' then l.keyPart? (quoted? false)
    else if startsPlain l.inFlow rest then l.plainScalar?
    else none

/-- Ends the text: all block collections end, and no key may be due. -/
def finish? (l : Lexer) : Option (List Token) :=
  l.unindentAll.dropKey?.map fun l => l.read.reverse

/-- Reads all tokens. -/
def run? : Nat → Lexer → Option (List Token)
  | 0, _ => none
  | fuel + 1, l => do
    let l ← l.advance?
    if l.cursor.rest.isEmpty then l.finish? else run? fuel (← l.token?)

end Lexer

/-- The tokens of a document. -/
def tokens? (cs : List Char) : Option (List Token) :=
  Lexer.run? (cs.length + 1) { cursor := ⟨cs, 0, 0⟩ }

end Telemetry.Yaml
