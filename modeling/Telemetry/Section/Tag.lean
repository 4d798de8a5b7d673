import Telemetry.Digest
import Telemetry.Pattern

/-!
# Routing tags

A tag ties the input of a pipeline instance to its filters and outputs. A *static* tag is the base
tag, pipeline and receiver joined by a dot. An input whose records get a tag from the client needs a
*dynamic* tag: a head that no other instance shares, followed by whatever the client adds. To keep
the parts of a dynamic tag apart, dots inside the two ids become underscores, and the content hash
of the base tag tells two instances apart whose ids look alike after that.
-/

namespace Telemetry

/-- The names under which one pipeline instance is addressed. -/
structure Tag where
  /-- Pipeline and receiver, joined by a dot. -/
  base : String
  /-- What the input puts on a record; the head of it if the tag is dynamic. -/
  input : String
  /-- The pattern by which filters match. -/
  routing : String
  /-- The regular expression by which outputs match. -/
  matchRegex : String
  /-- Whether clients extend the tag. -/
  dynamic : Bool
  deriving DecidableEq, Repr

namespace Tag

/-- The tag that is the same text for all its uses. -/
def ofText (base : String) : Tag :=
  ⟨base, base, base, Pattern.escape base, false⟩

/-- An id as one segment of a dynamic tag. -/
def segment (id : String) : String :=
  Text.mapChars (fun c => if c = '.' then '_' else c) id

/-- The three segments that every tag of a dynamic instance begins with. -/
def dynamicHead (pipeline receiver : String) : String :=
  segment pipeline ++ "." ++ segment receiver ++ "." ++ contentHash (pipeline ++ "." ++ receiver)

/-- The tag of a pipeline instance. -/
def forInstance (pipeline receiver : String) (dynamic : Bool) : Tag :=
  let base := pipeline ++ "." ++ receiver
  if dynamic then
    let head := dynamicHead pipeline receiver
    ⟨base, head ++ ".", head ++ ".*", Pattern.escape head ++ "\\..*", true⟩
  else ofText base

/-- The base tag as part of a file name. -/
def fileSafe (t : Tag) : String :=
  Text.mapChars (fun c => if ['.', '/', ':', '\\'].contains c then '_' else c) t.base

/-- A regular expression that matches the tags of all listed instances and no other. -/
def alternation (tags : List Tag) : String :=
  "^(" ++ Text.join "|" (tags.map (·.matchRegex)) ++ ")$"

end Tag

end Telemetry
