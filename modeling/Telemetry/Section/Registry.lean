import Telemetry.Error
import Telemetry.Section.Parser

/-!
# The parser registry

Parser names are global to the log engine. The registry starts with the built-in parsers and takes
further parser sections as long as their names are new, not empty and not reserved. The finished
list has the built-in parsers first and then the others in the order in which they came.
-/

namespace Telemetry

/-- The parser sections that were accepted so far, besides the built-in ones, and the names of all,
which are kept apart from them. -/
structure ParserRegistry where
  users : List Section
  /-- The names in use, the latest first. -/
  names : List String

namespace ParserRegistry

/-- The registry of the built-in parsers alone. -/
def new : ParserRegistry := ⟨[], ParserDef.builtinNames⟩

/-- The name of a parser section; a missing name is an empty one. -/
def nameOf (s : Section) : String :=
  (s.get? "Name").getD ""

/-- Whether a name is in use. -/
def contains (r : ParserRegistry) (name : String) : Bool :=
  r.names.contains name

/-- Enters a name, and says whether it was new. -/
def enter (r : ParserRegistry) (name : String) : Bool × ParserRegistry :=
  if r.contains name then (false, r) else (true, { r with names := name :: r.names })

/-- Offers a further parser section to a registry: what comes of it, and the registry after it. The
name is entered before the section is added. -/
def offer (r : ParserRegistry) (parser : Section) : Except SectionError Unit × ParserRegistry :=
  let name := nameOf parser
  if name = "" then (.error .emptyParserName, r)
  else if isReserved name then (.error (.parserCollision name), r)
  else
    match r.enter name with
    | (true, r') => (.ok (), { r' with users := r'.users ++ [parser] })
    | (false, r') => (.error (.parserCollision name), r')

/-- Takes a further parser section. -/
def register (r : ParserRegistry) (parser : Section) : Except SectionError ParserRegistry :=
  match r.offer parser with
  | (.ok _, r') => .ok r'
  | (.error e, _) => .error e

/-- All parser sections in their final order. -/
def toSections (r : ParserRegistry) : List Section :=
  ParserDef.builtins.map ParserDef.toSection ++ r.users

/-- Takes parser sections one after the other. -/
def registerAll (parsers : List Section) (r : ParserRegistry) :
    Except SectionError ParserRegistry :=
  parsers.foldlM register r

end ParserRegistry

/-- Whether a section defines a parser. -/
def Section.isParser (s : Section) : Bool :=
  s.kind = .parser

/-- Moves the parser sections of a list behind the others and puts the built-in parsers in front of
them. -/
def collectParsers (sections : List Section) : Except SectionError (List Section) := do
  let registry ← ParserRegistry.registerAll (sections.filter (·.isParser)) .new
  return sections.filter (fun s => !s.isParser) ++ registry.toSections

end Telemetry
