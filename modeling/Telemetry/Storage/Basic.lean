/-!
# Storage

What commands ask of the place where files are: to read a text, to make a folder and to write a
text. `Storage m` gives these operations in a monad, so that a command means the same on a disk and
on files in memory.
-/

namespace Telemetry

/-- Why an operation on files fails. -/
inductive StorageError where
  | notFound
  /-- Something that is no folder stands where a folder is to be made. -/
  | occupied
  /-- A path goes on after something that is no folder. -/
  | notFolder
  /-- A folder stands where a file is to be read or written. -/
  | isFolder
  | other (reason : String)
  deriving DecidableEq, Repr

/-- The text of the error, as the operating system words it. -/
def StorageError.message : StorageError → String
  | notFound => "No such file or directory (os error 2)"
  | occupied => "File exists (os error 17)"
  | notFolder => "Not a directory (os error 20)"
  | isFolder => "Is a directory (os error 21)"
  | other reason => reason

/-- Operations on files. -/
class Storage (m : Type → Type) where
  /-- Reads the text of the file at a path. -/
  readText : String → m (Except StorageError String)
  /-- Makes a folder at a path, with the folders around it. One that is there already is fine. -/
  makeFolder : String → m (Except StorageError Unit)
  /-- Writes a text to a file in a folder, given by path and name; the file may be there already. -/
  writeText (folder name text : String) : m (Except StorageError Unit)

end Telemetry
