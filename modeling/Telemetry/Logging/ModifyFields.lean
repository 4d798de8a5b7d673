import Telemetry.Logging.Parse

/-!
# Changing fields

A processor that says, for some fields of a record, where their values come from and how they are
replaced. All copies are made before any field is moved, so that a field can be copied and moved at
once; constants, defaults and removals follow, and replacements by table come last.
-/

namespace Telemetry

/-- What happens to one field. -/
structure FieldChange where
  /-- The field that is moved to this one. -/
  moveFrom : Option String := none
  /-- The field that is copied to this one. -/
  copyFrom : Option String := none
  /-- The value that the field always gets. -/
  staticValue : Option String := none
  /-- The value that the field gets if it is missing. -/
  defaultValue : Option String := none
  /-- Values and their replacements. -/
  mapValues : Keyed String := .empty
  /-- Whether the field is removed. -/
  remove : Bool := false

namespace FieldChange

/-- The number of places from which the field takes its value. -/
def sources (c : FieldChange) : Nat :=
  [c.moveFrom, c.copyFrom, c.staticValue].countP Option.isSome

/-- Whether the field gets a value in any way. -/
def givesValue (c : FieldChange) : Bool :=
  c.sources > 0 || c.defaultValue.isSome || !c.mapValues.isEmpty

/-- Refuses a change that contradicts itself. -/
def check (c : FieldChange) (id field : String) : Except CompileError Unit :=
  if c.sources > 1 then
    .error (invalidProcessor id "fields" ("field " ++ Text.quote field
      ++ " may set only one of move_from, copy_from and static_value"))
  else if c.remove && c.givesValue then
    .error (invalidProcessor id "fields" ("field " ++ Text.quote field
      ++ " cannot be removed and modified at once"))
  else .ok ()

end FieldChange

/-- The fields to change and how. -/
structure ModifyFields where
  fields : Keyed FieldChange := .empty

namespace ModifyFields

open Telemetry.Filter (ModifyOp)

/-- Refuses a processor that changes nothing or contradicts itself. -/
def check (m : ModifyFields) (id : String) : Except CompileError Unit :=
  if m.fields.isEmpty then .error (invalidProcessor id "fields" "at least one field is required")
  else m.fields.entries.forM fun (field, change) => change.check id field

/-- The copy into a field. -/
def copy? : String × FieldChange → Option ModifyOp
  | (field, change) => change.copyFrom.map fun source => .hardCopy source field

/-- The move into a field. -/
def move? : String × FieldChange → Option ModifyOp
  | (field, change) => change.moveFrom.map fun source => .hardRename source field

/-- The constant of a field. -/
def constant? : String × FieldChange → Option ModifyOp
  | (field, change) => change.staticValue.map fun value => .set field value

/-- The default of a field. -/
def default? : String × FieldChange → Option ModifyOp
  | (field, change) => change.defaultValue.map fun value => .add field value

/-- The removal of a field. -/
def removal? : String × FieldChange → Option ModifyOp
  | (field, change) => if change.remove then some (.remove field) else none

/-- All changes but the replacements by table, in the order in which they are made. -/
def ops (m : ModifyFields) : List ModifyOp :=
  let es := m.fields.entries
  es.filterMap copy? ++ es.filterMap move? ++ es.filterMap constant? ++ es.filterMap default?
    ++ es.filterMap removal?

/-- The filters that replace the values of one field by its table. -/
def replacements (routing : String) : String × FieldChange → List Section
  | (field, change) => change.mapValues.entries.map fun (old, new) =>
    Filter.modifyIf routing (Filter.keyEquals field old) (.set field new)

/-- The filters for all changes. -/
def sections (m : ModifyFields) (tag : Tag) : List Section :=
  let changes := if m.ops.isEmpty then [] else [Filter.modify tag.routing m.ops]
  changes ++ m.fields.entries.flatMap (replacements tag.routing)

end ModifyFields

end Telemetry
