import Telemetry.Error
import Telemetry.Section.Basic

/-!
# The files of the log engine

`Section.layout` writes a list of sections into files. The main file begins with the variables and
has the service, input, filter and output sections in this order of kinds; the parser file has the
parsers and then the line-joining parsers. Within a kind the order of the list is kept. Sections of
the kind `file` become files of their own. All this is gathered in one pass over the list, which
ends early where two files contradict each other; kinds that the log engine does not know are
gathered too, and reported together.
-/

namespace Telemetry

/-- Names and contents of generated files. -/
abbrev Files := Keyed String

namespace Section

/-- The file for the pipelines. -/
def mainFile : String := "fluent_bit_main.conf"

/-- The file for the parsers. -/
def parserFile : String := "fluent_bit_parser.conf"

/-- The kinds of sections in the main file, in order. -/
def mainKinds : List SectionKind := [.service, .input, .filter, .output]

/-- The kinds of sections in the parser file, in order. -/
def parserKinds : List SectionKind := [.parser, .multilineParser]

/-- Adds the file that a section stands for; a file may come twice only with the same contents. -/
def addFile (files : Files) (s : Section) : Except SectionError Files :=
  match s.file? with
  | none => .ok files
  | some (name, contents) =>
    match files.get? name with
    | none => .ok (files.insert name contents)
    | some present =>
      if present = contents then .ok files else .error (.conflictingOutputFile name)

/-- The lines that define variables, with an empty line after them if there are any. -/
def variableLines (vars : Keyed String) : List String :=
  if vars.isEmpty then []
  else (vars.entries.map fun (name, value) => "@SET " ++ name ++ "=" ++ value) ++ [""]

/-- What a pass over some sections has gathered. -/
structure Gathered where
  /-- The files that sections stand for. -/
  files : Files
  /-- The texts of the sections of each kind, in the order of the sections. -/
  texts : SectionKind → List String
  /-- The kinds that the log engine does not know. -/
  unknown : Keyed Unit

namespace Gathered

/-- Nothing yet. -/
def empty : Gathered := ⟨.empty, fun _ => [], .empty⟩

/-- Gathers what comes of one more section. -/
def add (g : Gathered) (s : Section) : Except SectionError Gathered :=
  match s.kind with
  | .file => (addFile g.files s).map fun files => { g with files := files }
  | .other name => .ok { g with unknown := g.unknown.insert name () }
  | kind =>
    .ok { g with texts := fun k => if k = kind then g.texts k ++ [s.render] else g.texts k }

end Gathered

/-- The text of the main file. -/
def mainText (vars : Keyed String) (texts : SectionKind → List String) : String :=
  Text.join "\n" (variableLines vars ++ mainKinds.flatMap texts)

/-- The text of the parser file. -/
def parserText (texts : SectionKind → List String) : String :=
  Text.join "\n" (parserKinds.flatMap texts)

/-- The files for some variables and sections. -/
def layout (vars : Keyed String) (sections : List Section) : Except SectionError Files := do
  let g ← sections.foldlM Gathered.add .empty
  match g.unknown.keys with
  | [] =>
    return (g.files.insert mainFile (mainText vars g.texts)).insert parserFile
      (parserText g.texts)
  | kinds => throw (.unknownSections kinds)

end Section

end Telemetry
