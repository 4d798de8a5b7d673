import Telemetry.Toml.Statement

/-!
# TOML documents

`parse?` reads a document: a carriage return may only stand in front of a line feed, the statements
are read one after the other, and each adds to the table of the whole document.
-/

namespace Telemetry.Toml

/-- The line breaks in one form. -/
def unifyBreaks? : List Char → Option (List Char)
  | [] => some []
  | '\r' :: '\n' :: cs => (unifyBreaks? cs).map ('\n' :: ·)
  | c :: cs => if c = '\r' then none else (unifyBreaks? cs).map (c :: ·)

/-- The characters of a document, without a byte order mark in front. -/
def sourceChars? (s : String) : Option (List Char) :=
  match s.toList with
  | c :: cs => unifyBreaks? (if c.toNat = 0xFEFF then cs else c :: cs)
  | [] => some []

/-- A part of a document that was taken in. -/
structure Draft where
  /-- The keys of the table that assignments go into. -/
  current : List String := []
  entries : Entries := []

/-- Takes in a statement. -/
def Draft.add? (d : Draft) : Statement → Option Draft
  | .assign key v => do
    return { d with entries := ← within? false (assign? key v) d.current .header d.entries }
  | .openTable key => do return ⟨key.scope ++ [key.name], ← openTable? key d.entries⟩
  | .openElement key => do return ⟨key.scope ++ [key.name], ← openElement? key d.entries⟩

/-- Reads a document. -/
def parse? (s : String) : Option Entries := do
  let cs ← sourceChars? s
  let draft ← (← statements? (cs.length + 1) cs).foldlM Draft.add? {}
  return draft.entries

end Telemetry.Toml
