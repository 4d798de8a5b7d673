/-!
# Values

Data as it is read, before it is known to fit the model: scalars that have types already, lists, and
tables whose keys may be any values and may repeat. `Value.record?` sees a value as the fields of a
record, and the functions to `Option` see it as something of a type.
-/

namespace Telemetry

/-- A value that was read. -/
inductive Value where
  | null
  | bool (b : Bool)
  | int (n : Int)
  /-- A number that is not a whole number. -/
  | real
  | text (s : String)
  | list (items : List Value)
  | table (entries : List (Value × Value))

namespace Value

instance : Inhabited Value := ⟨null⟩

/-- A value as a text. -/
def text? : Value → Option String
  | text s => some s
  | _ => none

/-- A value as a boolean. -/
def bool? : Value → Option Bool
  | bool b => some b
  | _ => none

/-- A value as a port number. -/
def port? : Value → Option UInt16
  | int n => if 0 ≤ n ∧ n.toNat < UInt16.size then some (UInt16.ofNat n.toNat) else none
  | _ => none

/-- A value that may be missing. -/
def optional? (read : Value → Option α) : Value → Option (Option α)
  | null => some none
  | v => (read v).map some

/-- A list of values of one type. -/
def list? (read : Value → Option α) : Value → Option (List α)
  | list items => items.mapM read
  | _ => none

/-- A table of values of one type, in the order in which its entries were read. -/
def table? (read : Value → Option α) : Value → Option (List (String × α))
  | table entries => entries.mapM fun (k, v) => do return (← k.text?, ← read v)
  | _ => none

/-- The fields of a record. -/
structure Record where
  fields : List (String × Value)

/-- The field of a record for which a key stands: by its name or by its number. -/
def fieldName? (names : List String) : Value → Option String
  | text s => if names.contains s then some s else none
  | int n => if 0 ≤ n then names[n.toNat]? else none
  | _ => none

/-- Sees a value as a record with the fields of the given names: a table without other keys and
without repetitions, or a list of the values of the first fields. -/
def record? (names : List String) : Value → Option Record
  | table entries => do
    let fields ← entries.mapM fun (k, v) => do return (← fieldName? names k, v)
    if (fields.map (·.1)).Nodup then some ⟨fields⟩ else none
  | list items => if items.length ≤ names.length then some ⟨names.zip items⟩ else none
  | _ => none

namespace Record

/-- A field that has a default. -/
def getD (r : Record) (name : String) (default : α) (read : Value → Option α) : Option α :=
  match r.fields.lookup name with
  | some v => read v
  | none => some default

/-- A field that may be missing. -/
def get? (r : Record) (name : String) (read : Value → Option α) : Option (Option α) :=
  r.getD name none (optional? read)

/-- A field that must be there. -/
def get (r : Record) (name : String) (read : Value → Option α) : Option α :=
  (r.fields.lookup name).bind read

end Record

/-- Sees a table as a component: the type that it names, and its other entries. -/
def component? : Value → Option (String × Value)
  | table entries =>
    match entries.filter (·.1.text? = some "type") with
    | [(_, text type)] => some (type, table (entries.filter (·.1.text? ≠ some "type")))
    | _ => none
  | list (text type :: rest) => some (type, list rest)
  | _ => none

end Value

end Telemetry
