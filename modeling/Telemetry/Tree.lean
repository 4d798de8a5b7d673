import Telemetry.Keyed
import Telemetry.Number.Magnitude

/-!
# Configuration trees

The settings of a collector component are a tree of tables, lists and scalars. The entries of a
table stand in ascending order of their keys; `Tree.table` puts them there.
-/

namespace Telemetry

/-- A tree of settings. -/
inductive Tree where
  | null
  | bool (b : Bool)
  | int (n : Int)
  /-- A number that is not a whole number of 64 bits. -/
  | real (negative : Bool) (m : Magnitude)
  | text (s : String)
  | list (items : List Tree)
  /-- The entries of a table in ascending order of their keys. -/
  | sorted (entries : List (String × Tree))

namespace Tree

instance : Inhabited Tree := ⟨null⟩

/-- The table with the given entries; of several entries with one key the last one counts. -/
def table (entries : List (String × Tree)) : Tree :=
  sorted (Keyed.ofList entries).entries

/-- A list of texts. -/
def texts (xs : List String) : Tree :=
  list (xs.map text)

end Tree

end Telemetry
