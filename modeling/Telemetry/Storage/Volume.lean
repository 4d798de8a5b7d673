import Telemetry.Storage.Basic

/-!
# Files in memory

A volume holds files and folders by their locations. A location begins at the folder in which a
command works, unless its first name is `/`. Every folder around a file or a folder is there too, as
are all folders around the one in which the command works. `Volume.readText`, `Volume.makeFolder`
and `Volume.writeText` are the operations that commands need.
-/

namespace Telemetry

/-- The names on the way to a file or a folder. -/
abbrev Location := List String

/-- Files with their texts, and folders that were made. -/
structure Volume where
  files : List (Location × String) := []
  folders : List Location := []
  deriving DecidableEq, Repr

namespace Volume

/-- The parts of a path between slashes; a path with a slash in front begins with an empty part. -/
def parts (path : String) : List String :=
  (path.toList.splitOn '/').map String.ofList

/-- The folder around a location. -/
def above (l : Location) : Location :=
  if l.all (· = "..") then l ++ [".."]
  else if l = ["/"] then l
  else l.dropLast

/-- Whether a folder is there. -/
def isFolder (v : Volume) (l : Location) : Bool :=
  l.all (· = "..") || l = ["/"] || v.folders.any (l.isPrefixOf ·)
    || v.files.any fun f => l.isPrefixOf f.1 && l.length < f.1.length

/-- The text of a file. -/
def text? (v : Volume) (l : Location) : Option String :=
  v.files.lookup l

/-- Goes on along the parts of a path. A part that names nothing, and one that goes back, need a
folder to stand in. -/
def locate (v : Volume) (l : Location) : List String → Except StorageError Location
  | [] => .ok l
  | part :: rest =>
    if !v.isFolder l then .error (if (v.text? l).isSome then .notFolder else .notFound)
    else if part = "" ∨ part = "." then v.locate l rest
    else if part = ".." then v.locate (above l) rest
    else v.locate (l ++ [part]) rest

/-- Where a path leads. -/
def resolve (v : Volume) (path : String) : Except StorageError Location :=
  match parts path with
  | "" :: rest => v.locate [] ("/" :: rest)
  | parts => v.locate [] parts

/-- Reads the file at a path. -/
def readText (v : Volume) (path : String) : Except StorageError String := do
  let l ← v.resolve path
  match v.text? l with
  | some text => .ok text
  | none => .error (if v.isFolder l then .isFolder else .notFound)

/-- Makes the folders that are missing on the way along the parts of a path. -/
def makeFolders (v : Volume) (l : Location) : List String → Except StorageError Volume
  | [] =>
    if v.isFolder l then .ok v
    else if (v.text? l).isSome then .error .occupied
    else .ok { v with folders := v.folders ++ [l] }
  | part :: rest =>
    if (v.text? l).isSome then .error (if part = "" ∧ rest = [] then .occupied else .notFolder)
    else
      let v := if v.isFolder l then v else { v with folders := v.folders ++ [l] }
      if part = "" ∨ part = "." then v.makeFolders l rest
      else if part = ".." then v.makeFolders (above l) rest
      else v.makeFolders (l ++ [part]) rest

/-- Makes the folder at a path, with those around it. -/
def makeFolder (v : Volume) (path : String) : Except StorageError Volume :=
  match parts path with
  | "" :: rest => v.makeFolders [] ("/" :: rest)
  | parts => v.makeFolders [] parts

/-- Writes a text to a file in a folder. -/
def writeText (v : Volume) (folder name text : String) : Except StorageError Volume := do
  let around ← v.resolve folder
  let l := around ++ [name]
  if !v.isFolder around then .error .notFound
  else if v.isFolder l then .error .isFolder
  else .ok { v with files := (l, text) :: v.files.filter (·.1 ≠ l) }

end Volume

/-- An operation that may change a volume; if it fails, the volume remains as it was. -/
def Volume.attempt (f : Volume → Except StorageError Volume) :
    StateM Volume (Except StorageError Unit) := fun v =>
  match f v with
  | .ok v => (.ok (), v)
  | .error e => (.error e, v)

instance : Storage (StateM Volume) where
  readText path := fun v => (v.readText path, v)
  makeFolder path := Volume.attempt (·.makeFolder path)
  writeText folder name text := Volume.attempt (·.writeText folder name text)

end Telemetry
