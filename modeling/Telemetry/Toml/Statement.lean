import Telemetry.Toml.Scalar

/-!
# TOML statements

A document is a sequence of statements, each on lines of its own: headers, and keys with values.
-/

namespace Telemetry.Toml

/-- What a line, or a value with all its lines, says. -/
inductive Statement where
  | assign (key : Key) (value : Value)
  /-- A header: the assignments after it go into the table. -/
  | openTable (key : Key)
  /-- A header of a table in a list of tables. -/
  | openElement (key : Key)

/-- Goes on past spaces and tabs. -/
def skipSpacing (cs : List Char) : List Char :=
  cs.dropWhile isSpacing

/-- Goes on past spacing, line breaks and comments; the first argument says whether it begins inside
a comment. -/
def skipBlank? : Bool → List Char → Option (List Char)
  | _, [] => some []
  | true, c :: cs =>
    if c = '\n' then skipBlank? false cs else if isPlain c then skipBlank? true cs else none
  | false, c :: cs =>
    if isSpacing c || c = '\n' then skipBlank? false cs
    else if c = '#' then skipBlank? true cs
    else some (c :: cs)

/-- Goes on past the end of a line, in front of which a comment may stand. -/
def lineEnd? (cs : List Char) : Option (List Char) :=
  match skipSpacing cs with
  | [] => some []
  | '\n' :: rest => some rest
  | '#' :: rest => skipBlank? true rest
  | _ => none

/-! ## Keys -/

/-- A character of a key without quotes. -/
def isKeyChar (c : Char) : Bool :=
  c.isAlphanum || c = '-' || c = '_'

/-- Reads one part of a key. -/
def keyPart? : List Char → Option (String × List Char)
  | '"' :: cs => (quotedText? cs).map fun (s, rest) => (String.ofList s, rest)
  | '\'' :: cs => (literalText? cs).map fun (s, rest) => (String.ofList s, rest)
  | cs =>
    if (cs.takeWhile isKeyChar).isEmpty then none
    else some (String.ofList (cs.takeWhile isKeyChar), cs.dropWhile isKeyChar)

/-- Reads a key of a bounded number of parts, with dots and spacing between them, and the spacing
after it. -/
def keyOfSize? : Nat → List Char → Option (Key × List Char)
  | 0, _ => none
  | bound + 1, cs => do
    let (name, cs) ← keyPart? cs
    match skipSpacing cs with
    | '.' :: cs =>
      let (key, cs) ← keyOfSize? bound (skipSpacing cs)
      return ({ key with scope := name :: key.scope }, cs)
    | cs => return (⟨[], name⟩, cs)

/-- Reads a key. -/
def key? (cs : List Char) : Option (Key × List Char) :=
  keyOfSize? (cs.length + 1) cs

/-! ## Values -/

/-- Reads a bounded number of members of a list, up to its end. -/
def items? (value? : List Char → Option (Value × List Char)) :
    Nat → List Char → Option (List Value × List Char)
  | 0, _ => none
  | bound + 1, cs => do
    match ← skipBlank? false cs with
    | ']' :: cs => return ([], cs)
    | cs =>
      let (v, cs) ← value? cs
      match ← skipBlank? false cs with
      | ',' :: cs =>
        let (vs, cs) ← items? value? bound cs
        return (v :: vs, cs)
      | ']' :: cs => return ([v], cs)
      | _ => none

/-- Reads a key with its value, by a reader of values. -/
def assignment? (value? : List Char → Option (Value × List Char)) (cs : List Char) :
    Option (Key × Value × List Char) := do
  let (key, cs) ← key? cs
  match cs with
  | '=' :: cs =>
    let (v, cs) ← value? (skipSpacing cs)
    return (key, v, cs)
  | _ => none

/-- Reads a bounded number of entries of a table between braces, up to its end. -/
def entries? (value? : List Char → Option (Value × List Char)) :
    Nat → Entries → List Char → Option (Entries × List Char)
  | 0, _, _ => none
  | bound + 1, entries, cs => do
    match ← skipBlank? false cs with
    | '\x7d' :: cs => return (entries, cs)
    | cs =>
      let (key, v, cs) ← assignment? value? cs
      let entries ← assign? key v .inline entries
      match ← skipBlank? false cs with
      | ',' :: cs => entries? value? bound entries cs
      | '\x7d' :: cs => return (entries, cs)
      | _ => none

/-- Reads a value in which lists and tables are nested up to a depth. -/
def valueOfDepth? : Nat → List Char → Option (Value × List Char)
  | 0, cs => scalar? cs
  | depth + 1, '[' :: cs =>
    (items? (valueOfDepth? depth) (cs.length + 1) cs).map fun (vs, rest) => (.list vs, rest)
  | depth + 1, '\x7b' :: cs =>
    (entries? (valueOfDepth? depth) (cs.length + 1) [] cs).map fun (es, rest) =>
      (.table .inline es, rest)
  | _ + 1, cs => scalar? cs

/-- How deep lists and tables may be nested. -/
def maxDepth : Nat := 80

/-- Reads a value. -/
def value? (cs : List Char) : Option (Value × List Char) :=
  valueOfDepth? maxDepth cs

/-! ## Statements -/

/-- Reads a statement. -/
def statement? : List Char → Option (Statement × List Char)
  | '[' :: '[' :: cs => do
    let (key, cs) ← key? (skipSpacing cs)
    match cs with
    | ']' :: ']' :: cs => return (.openElement key, cs)
    | _ => none
  | '[' :: cs => do
    let (key, cs) ← key? (skipSpacing cs)
    match cs with
    | ']' :: cs => return (.openTable key, cs)
    | _ => none
  | cs => do
    let (key, v, cs) ← assignment? value? cs
    return (.assign key v, cs)

/-- Reads a bounded number of statements, to the end of the document. -/
def statements? : Nat → List Char → Option (List Statement)
  | 0, _ => none
  | bound + 1, cs => do
    match ← skipBlank? false cs with
    | [] => return []
    | cs =>
      let (s, cs) ← statement? cs
      return s :: (← statements? bound (← lineEnd? cs))

end Telemetry.Toml
