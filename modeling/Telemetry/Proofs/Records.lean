import Mathlib.Logic.Function.Basic
import Telemetry.Section.Filter
import Telemetry.Tree

/-!
# Records and changes to them

The log engine works on records, one after the other, and a filter applies its changes to a record in
order. This file says what each change does to the fields of a record, and which fields it leaves as
they are.

* **`ModifyOp.apply`** — one change; **`applyAll`** — changes in order.
* **`ModifyOp.target?`**, **`ModifyOp.cleared?`** — the field that a change can give a value, and the
  one that it can take away. What neither names is left (**`preserves_of_ne`**).
* **`applyAll_preserves`**, **`of_applyAll_some`** — the same for a run of changes, in both
  directions: what it keeps, and where a value that it leaves comes from.
-/

namespace Telemetry

/-- A record of the log engine: the value of each field that it has. -/
abbrev LogRecord := String → Option Tree

namespace LogRecord

/-- Gives a field a value. -/
def put (r : LogRecord) (key : String) (value : Tree) : LogRecord :=
  Function.update r key (some value)

/-- Takes a field away. -/
def drop (r : LogRecord) (key : String) : LogRecord :=
  Function.update r key none

@[simp] theorem put_self (r : LogRecord) (key : String) (value : Tree) :
    r.put key value key = some value :=
  Function.update_self key _ r

@[simp] theorem put_of_ne {key key' : String} (h : key' ≠ key) (r : LogRecord) (value : Tree) :
    r.put key value key' = r key' :=
  Function.update_of_ne h _ r

@[simp] theorem drop_self (r : LogRecord) (key : String) : r.drop key key = none :=
  Function.update_self key _ r

@[simp] theorem drop_of_ne {key key' : String} (h : key' ≠ key) (r : LogRecord) :
    r.drop key key' = r key' :=
  Function.update_of_ne h _ r

/-- Copies a field over any field of the new name. A field that is missing is not copied. -/
def copy (r : LogRecord) (source target : String) : LogRecord :=
  (r source).elim r fun v => r.put target v

/-- Gives a field a new name, over any field of that name. A field that is missing is not moved. -/
def move (r : LogRecord) (source target : String) : LogRecord :=
  (r source).elim r fun v => (r.drop source).put target v

theorem copy_of_none {source : String} {r : LogRecord} (h : r source = none) (target : String) :
    r.copy source target = r := by
  rw [copy, h, Option.elim_none]

theorem copy_of_some {source : String} {r : LogRecord} {v : Tree} (h : r source = some v)
    (target : String) : r.copy source target = r.put target v := by
  rw [copy, h, Option.elim_some]

theorem move_of_none {source : String} {r : LogRecord} (h : r source = none) (target : String) :
    r.move source target = r := by
  rw [move, h, Option.elim_none]

theorem move_of_some {source : String} {r : LogRecord} {v : Tree} (h : r source = some v)
    (target : String) : r.move source target = (r.drop source).put target v := by
  rw [move, h, Option.elim_some]

/-- A copy changes no field but the one of the new name. -/
theorem copy_of_ne {target key : String} (h : key ≠ target) (r : LogRecord) (source : String) :
    r.copy source target key = r key := by
  cases hs : r source with
  | none => rw [copy_of_none hs]
  | some v => rw [copy_of_some hs, put_of_ne h]

/-- A field that is moved is missing behind that, unless it keeps its name. -/
theorem move_source {source target : String} (h : source ≠ target) (r : LogRecord) :
    r.move source target source = none := by
  cases hs : r source with
  | none => rw [move_of_none hs, hs]
  | some v => rw [move_of_some hs, put_of_ne h, drop_self]

/-- A move changes no field but those of the two names. -/
theorem move_of_ne {source target key : String} (hs : key ≠ source) (ht : key ≠ target)
    (r : LogRecord) : r.move source target key = r key := by
  cases hr : r source with
  | none => rw [move_of_none hr]
  | some v => rw [move_of_some hr, put_of_ne ht, drop_of_ne hs]

/-- The value of a field if it is a text. -/
def text? (r : LogRecord) (key : String) : Option String :=
  match r key with
  | some (.text s) => some s
  | _ => none

theorem text?_eq_some {r : LogRecord} {key s : String} :
    r.text? key = some s ↔ r key = some (.text s) := by
  rw [text?]
  constructor
  · intro h
    split at h
    · rename_i hkey
      rw [hkey, Option.some.inj h]
    · exact nomatch h
  · intro h
    rw [h]

end LogRecord

namespace Filter

namespace ModifyOp

/-- What a change does to a record. -/
def apply : ModifyOp → LogRecord → LogRecord
  | add key value, r => if (r key).isNone then r.put key (.text value) else r
  | set key value, r => r.put key (.text value)
  | rename source target, r => if (r target).isNone then r.move source target else r
  | hardRename source target, r => r.move source target
  | hardCopy source target, r => r.copy source target
  | remove key, r => r.drop key

/-- The field that a change can give a value. -/
def target? : ModifyOp → Option String
  | add key _ => some key
  | set key _ => some key
  | rename _ target => some target
  | hardRename _ target => some target
  | hardCopy _ target => some target
  | remove _ => none

/-- The field that a change can take away. -/
def cleared? : ModifyOp → Option String
  | rename source _ => some source
  | hardRename source _ => some source
  | remove key => some key
  | _ => none

/-- A change neither takes away nor replaces the value of a field. -/
def Preserves (op : ModifyOp) (key : String) : Prop :=
  ∀ (r : LogRecord) (v : Tree), r key = some v → op.apply r key = some v

variable {op : ModifyOp} {key : String}

/-- A change leaves a field as it is, or takes it away, if it does not give it a value. -/
theorem apply_eq_or (h : op.target? ≠ some key) (r : LogRecord) :
    op.apply r key = r key ∨ (op.cleared? = some key ∧ op.apply r key = none) := by
  have hne : ∀ target, op.target? = some target → key ≠ target := by
    rintro target ht rfl
    exact h ht
  have hmove : ∀ source target, key ≠ target →
      r.move source target key = r key ∨
        (some source = some key ∧ r.move source target key = none) := by
    intro source target ht
    by_cases hs : key = source
    · subst hs
      exact .inr ⟨rfl, LogRecord.move_source ht r⟩
    · exact .inl (LogRecord.move_of_ne hs ht r)
  cases op with
  | add k v =>
      rw [apply]
      split
      · exact .inl (LogRecord.put_of_ne (hne k rfl) r _)
      · exact .inl rfl
  | set k v => exact .inl (LogRecord.put_of_ne (hne k rfl) r _)
  | rename s t =>
      rw [apply]
      split
      · exact hmove s t (hne t rfl)
      · exact .inl rfl
  | hardRename s t => exact hmove s t (hne t rfl)
  | hardCopy s t => exact .inl (LogRecord.copy_of_ne (hne t rfl) r s)
  | remove k =>
      by_cases hk : key = k
      · subst hk
        exact .inr ⟨rfl, r.drop_self key⟩
      · exact .inl (r.drop_of_ne hk)

theorem preserves_of_ne (h : op.target? ≠ some key) (h' : op.cleared? ≠ some key) :
    op.Preserves key := by
  intro r v hv
  rw [(apply_eq_or h r).resolve_right fun hc => h' hc.1, hv]

/-- A default does not touch a field that is there. -/
theorem preserves_add (k value key : String) : (add k value).Preserves key := by
  intro r v hv
  rw [apply]
  split
  · rename_i hk
    have hne : key ≠ k := by
      rintro rfl
      rw [hv] at hk
      exact Bool.noConfusion hk
    rw [LogRecord.put_of_ne hne, hv]
  · exact hv

/-- A field that is copied to itself keeps its value. -/
theorem preserves_hardCopy_self (key : String) : (hardCopy key key).Preserves key := by
  intro r v hv
  rw [apply, LogRecord.copy_of_some hv, LogRecord.put_self]

/-- A value behind a change that does not give it was there before. -/
theorem of_apply_some (h : op.target? ≠ some key) {r : LogRecord} {v : Tree}
    (hv : op.apply r key = some v) : r key = some v := by
  rcases apply_eq_or h r with he | ⟨-, hn⟩
  · rw [← he, hv]
  · rw [hn] at hv
    exact nomatch hv

end ModifyOp

open ModifyOp

/-- Applies changes in order. -/
def applyAll (ops : List ModifyOp) (r : LogRecord) : LogRecord :=
  ops.foldl (fun r op => op.apply r) r

theorem applyAll_append (ops ops' : List ModifyOp) (r : LogRecord) :
    applyAll (ops ++ ops') r = applyAll ops' (applyAll ops r) :=
  List.foldl_append

theorem applyAll_cons (op : ModifyOp) (ops : List ModifyOp) (r : LogRecord) :
    applyAll (op :: ops) r = applyAll ops (op.apply r) := rfl

variable {ops : List ModifyOp} {key : String} {r : LogRecord} {v : Tree}

/-- **A value is kept** by changes that all preserve it. -/
theorem applyAll_preserves (h : ∀ op ∈ ops, op.Preserves key) (hv : r key = some v) :
    applyAll ops r key = some v := by
  induction ops generalizing r with
  | nil => exact hv
  | cons op ops ih =>
      obtain ⟨hop, hops⟩ := List.forall_mem_cons.mp h
      exact ih hops (hop r v hv)

/-- A value that is left was there before if no change brings it. -/
theorem of_applyAll (h : ∀ op ∈ ops, ∀ r, op.apply r key = some v → r key = some v)
    (hv : applyAll ops r key = some v) : r key = some v := by
  induction ops generalizing r with
  | nil => exact hv
  | cons op ops ih =>
      obtain ⟨hop, hops⟩ := List.forall_mem_cons.mp h
      exact hop r (ih hops hv)

/-- **A value that is left was there before** if no change gives the field one. -/
theorem of_applyAll_some (h : ∀ op ∈ ops, op.target? ≠ some key)
    (hv : applyAll ops r key = some v) : r key = some v :=
  of_applyAll (fun op hop _ => of_apply_some (h op hop)) hv

/-- A field that is missing stays so if no change gives it a value. -/
theorem applyAll_eq_none (h : ∀ op ∈ ops, op.target? ≠ some key) (hn : r key = none) :
    applyAll ops r key = none := by
  by_contra hsome
  obtain ⟨v, hv⟩ := Option.ne_none_iff_exists'.mp hsome
  rw [of_applyAll_some h hv] at hn
  exact nomatch hn

/-- **A value is brought** from one field to another by a change, if those before it preserve the one
and those behind it the other. -/
theorem applyAll_brings {before after : List ModifyOp} {op : ModifyOp} {source target : String}
    (hbefore : ∀ op ∈ before, op.Preserves source)
    (hop : ∀ r : LogRecord, r source = some v → op.apply r target = some v)
    (hafter : ∀ op ∈ after, op.Preserves target) (hv : r source = some v) :
    applyAll (before ++ op :: after) r target = some v := by
  rw [applyAll_append, applyAll_cons]
  exact applyAll_preserves hafter (hop _ (applyAll_preserves hbefore hv))

end Filter

end Telemetry
