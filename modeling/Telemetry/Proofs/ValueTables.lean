import Telemetry.Logging.ModifyFields
import Telemetry.Proofs.Keyed
import Telemetry.Proofs.Records

/-!
# Tables of values

A changed field can have a table of values and their replacements. Each entry becomes a filter of its
own, in the order of the keys; so a filter sees what those before it have put in.

* **`sections_eq`** — the filters of a processor are its changes and then its replacements.
* **`replaceAll_apply`** — the replacements in a record are those of its single fields.
* **`inOrder_eq_iff`** — entries in order replace each value as the table says exactly if no
  replacement is itself replaced by a later entry.
* **`substitutes_iff`** — the same for the fields of all records. A table that leads from one of its
  keys to the next does not: **`not_substitutes_chained`**.
-/

namespace Telemetry

/-! ## Replacing texts in order -/

/-- Replaces a text by the entries of a list, one after the other. -/
def inOrder (es : List (String × String)) (v : String) : String :=
  es.foldl (fun v e => if v = e.1 then e.2 else v) v

/-- No replacement is a later key that is replaced by something else. -/
def Direct (es : List (String × String)) : Prop :=
  ∀ e ∈ es, e.1 < e.2 → (es.lookup e.2).getD e.2 = e.2

instance : DecidablePred Direct := fun es =>
  inferInstanceAs (Decidable (∀ e ∈ es, e.1 < e.2 → (es.lookup e.2).getD e.2 = e.2))

section InOrder

variable {e : String × String} {es : List (String × String)}

theorem inOrder_cons (e : String × String) (es : List (String × String)) (v : String) :
    inOrder (e :: es) v = inOrder es (if v = e.1 then e.2 else v) := rfl

theorem lookup_cons_of_ne {v : String} (h : v ≠ e.1) : (e :: es).lookup v = es.lookup v := by
  rw [List.lookup_cons, beq_false_of_ne h]

/-- What is not above the first key of an ascending list is no key of the rest. -/
theorem lookup_eq_none {v : String} (h : ∀ e' ∈ es, e.1 < e'.1) (hv : ¬ e.1 < v) :
    es.lookup v = none := by
  refine List.lookup_eq_none_iff.mpr fun e' he' => ?_
  rw [bne_iff_ne]
  rintro rfl
  exact hv (h e' he')

/-- A text that is no key stays. -/
theorem inOrder_of_lookup {v : String} (h : es.lookup v = none) : inOrder es v = v := by
  rw [List.lookup_eq_none_iff] at h
  induction es with
  | nil => rfl
  | cons e es ih =>
      obtain ⟨he, hes⟩ := List.forall_mem_cons.mp h
      rw [inOrder_cons, if_neg (bne_iff_ne.mp he), ih hes]

/-- The first entry is direct, in front of greater keys, if the rest leaves its replacement. -/
theorem direct_cons (h : ∀ e' ∈ es, e.1 < e'.1) :
    Direct (e :: es) ↔ (e.1 < e.2 → (es.lookup e.2).getD e.2 = e.2) ∧ Direct es := by
  have hlater : ∀ {w : String}, e.1 < w → (e :: es).lookup w = es.lookup w := by
    intro w hlt
    refine lookup_cons_of_ne ?_
    rintro rfl
    exact String.lt_irrefl _ hlt
  rw [Direct, List.forall_mem_cons, Direct]
  refine and_congr ?_ ?_
  · refine forall_congr' fun hlt => ?_
    rw [hlater hlt]
  · refine forall₂_congr fun e' he' => forall_congr' fun hlt => ?_
    rw [hlater (String.lt_trans (h e' he') hlt)]

/-- **Entries in order replace each text once** exactly if they are direct. -/
theorem inOrder_eq_iff (h : es.Pairwise (fun a b => a.1 < b.1)) :
    (∀ v, inOrder es v = (es.lookup v).getD v) ↔ Direct es := by
  induction es with
  | nil => exact iff_of_true (fun _ => rfl) (fun e he => nomatch he)
  | cons e es ih =>
      obtain ⟨hfirst, hes⟩ := List.pairwise_cons.mp h
      rw [direct_cons hfirst, ← ih hes]
      have hno : es.lookup e.1 = none := lookup_eq_none hfirst (String.lt_irrefl _)
      have hself : (e :: es).lookup e.1 = some e.2 := by rw [List.lookup_cons, BEq.rfl]
      constructor
      · intro hall
        -- the first key stays without its entry, and its replacement must stay with the others
        have hrest : ∀ v, inOrder es v = (es.lookup v).getD v := by
          intro v
          by_cases hv : v = e.1
          · rw [hv, inOrder_of_lookup hno, hno]
            rfl
          · have hv' := hall v
            rwa [inOrder_cons, if_neg hv, lookup_cons_of_ne hv] at hv'
        have hnew := hall e.1
        rw [inOrder_cons, if_pos rfl, hself, hrest] at hnew
        exact ⟨fun _ => hnew, hrest⟩
      · rintro ⟨hnew, hrest⟩ v
        rw [inOrder_cons]
        by_cases hv : v = e.1
        · rw [if_pos hv, hv, hself, hrest]
          by_cases hlt : e.1 < e.2
          · exact hnew hlt
          · rw [lookup_eq_none hfirst hlt]
            rfl
        · rw [if_neg hv, lookup_cons_of_ne hv, hrest]

end InOrder

/-! ## Replacements in records -/

/-- A text in a field and what comes in its place. -/
structure Replacement where
  field : String
  old : String
  new : String

namespace Replacement

/-- The filter for a replacement. -/
def toSection (routing : String) (x : Replacement) : Section :=
  Filter.modifyIf routing (Filter.keyEquals x.field x.old) (.set x.field x.new)

/-- What the filter does to a record. -/
def apply (x : Replacement) (r : LogRecord) : LogRecord :=
  if r.text? x.field = some x.old then (Filter.ModifyOp.set x.field x.new).apply r else r

/-- Makes replacements in order. -/
def replaceAll (xs : List Replacement) (r : LogRecord) : LogRecord :=
  xs.foldl (fun r x => x.apply r) r

/-- Changes a value if it is a text. -/
def onText (f : String → String) : Tree → Tree
  | .text s => .text (f s)
  | v => v

theorem onText_onText (f g : String → String) (v : Tree) :
    onText g (onText f v) = onText (fun s => g (f s)) v := by
  cases v <;> rfl

theorem onText_id (v : Tree) : onText (fun s => s) v = v := by
  cases v <;> rfl

theorem apply_self (x : Replacement) (r : LogRecord) :
    x.apply r x.field = (r x.field).map (onText fun s => if s = x.old then x.new else s) := by
  rw [apply]
  split
  · rename_i hold
    rw [LogRecord.text?_eq_some.mp hold]
    show r.put x.field (.text x.new) x.field
      = some (.text (if x.old = x.old then x.new else x.old))
    rw [LogRecord.put_self, if_pos rfl]
  · rename_i hold
    rw [LogRecord.text?_eq_some] at hold
    cases hr : r x.field with
    | none => rfl
    | some v =>
        cases v with
        | text s =>
            have hs : s ≠ x.old := by
              rintro rfl
              exact hold hr
            rw [Option.map_some, onText, if_neg hs]
        | _ => rfl

theorem apply_of_ne {x : Replacement} {field : String} (h : field ≠ x.field) (r : LogRecord) :
    x.apply r field = r field := by
  rw [apply]
  split
  · exact LogRecord.put_of_ne h r _
  · rfl

/-- **Each field gets its own replacements**, in their order. -/
theorem replaceAll_apply (xs : List Replacement) (field : String) (r : LogRecord) :
    replaceAll xs r field = (r field).map
      (onText (inOrder ((xs.filter (·.field = field)).map fun x => (x.old, x.new)))) := by
  induction xs generalizing r with
  | nil =>
      show r field = (r field).map (onText fun s => s)
      rw [funext onText_id, Option.map_id']
  | cons x xs ih =>
      show replaceAll xs (x.apply r) field = _
      rw [ih]
      by_cases hx : x.field = field
      · subst hx
        rw [apply_self, Option.map_map, List.filter_cons_of_pos (by simp), List.map_cons]
        refine congrArg (Option.map · _) (funext fun v => ?_)
        exact onText_onText _ _ v
      · rw [apply_of_ne (Ne.symm hx), List.filter_cons_of_neg (by simpa using hx)]

end Replacement

/-! ## The replacements of a processor -/

namespace ModifyFields

open Replacement (replaceAll onText)

variable {m : ModifyFields} {field : String} {c : FieldChange}

/-- All replacements in the order of their filters. -/
def replacementList (m : ModifyFields) : List Replacement :=
  m.fields.entries.flatMap fun (field, change) =>
    change.mapValues.entries.map fun (old, new) => ⟨field, old, new⟩

theorem sections_eq (m : ModifyFields) (tag : Tag) :
    m.sections tag = (if m.ops.isEmpty then [] else [Filter.modify tag.routing m.ops])
      ++ m.replacementList.map (·.toSection tag.routing) := by
  rw [sections, replacementList, List.map_flatMap]
  refine congrArg (_ ++ ·) (List.flatMap_congr ?_)
  rintro ⟨field, change⟩ -
  rw [replacements, List.map_map]
  rfl

/-- The replacements for a field are the entries of its table. -/
theorem filter_replacementList (hget : m.fields.get? field = some c) :
    (m.replacementList.filter (·.field = field)).map (fun x => (x.old, x.new))
      = c.mapValues.entries := by
  rw [replacementList, List.filter_flatMap, List.map_flatMap, Keyed.flatMap_entries _ (k := field),
    hget]
  · simp [List.filter_map, Function.comp_def]
  · rintro ⟨field', change⟩ - hne
    simp [List.filter_map, Function.comp_def, show field' ≠ field from hne]

/-- **The values of a field are replaced as its table says** by the filters of a processor. -/
def Substitutes (m : ModifyFields) (field : String) (table : Keyed String) : Prop :=
  ∀ r : LogRecord, replaceAll m.replacementList r field
    = (r field).map (onText fun v => (table.get? v).getD v)

/-- The filters of a processor replace the values of a field as its table says exactly if the table
is direct. -/
theorem substitutes_iff_direct (hget : m.fields.get? field = some c) :
    m.Substitutes field c.mapValues ↔ Direct c.mapValues.entries := by
  rw [← inOrder_eq_iff c.mapValues.ordered]
  constructor
  · intro h v
    have hv := h fun _ => some (.text v)
    rw [Replacement.replaceAll_apply, filter_replacementList hget] at hv
    exact Tree.text.inj (Option.some.inj hv)
  · intro h r
    rw [Replacement.replaceAll_apply, filter_replacementList hget, funext h]
    rfl

/-- **Fields are replaced as their tables say** exactly if no replacement in the table is a later key
that is replaced by something else. The replacements are the filters that a processor adds to its
changes. -/
theorem substitutes_iff (hget : m.fields.get? field = some c) :
    (∀ tag, m.sections tag = (if m.ops.isEmpty then [] else [Filter.modify tag.routing m.ops])
      ++ m.replacementList.map (·.toSection tag.routing)) ∧
      (m.Substitutes field c.mapValues ↔
        ∀ old new, c.mapValues.get? old = some new → old < new →
          (c.mapValues.get? new).getD new = new) := by
  refine ⟨m.sections_eq, (substitutes_iff_direct hget).trans ?_⟩
  rw [Direct, Prod.forall]
  exact forall₂_congr fun old new => imp_congr_left Keyed.mem_entries_iff

/-- A table of levels in which no replacement is a later key. -/
def leveledField : FieldChange where
  mapValues := .ofList [("E", "ERROR"), ("W", "WARNING"), ("WARN", "W")]

/-- A table whose replacements are no later keys. -/
theorem substitutes_levels :
    Substitutes ⟨.ofList [("level", leveledField)]⟩ "level" leveledField.mapValues := by
  have hdirect : Direct leveledField.mapValues.entries := by decide
  exact (substitutes_iff (c := leveledField) rfl).2.mpr fun old new h =>
    hdirect (old, new) (Keyed.mem_entries_iff.mpr h)

/-- A table that leads from one of its keys to the next. -/
def chainedField : FieldChange where
  mapValues := .ofList [("a", "b"), ("b", "c")]

/-- **A table that leads from one of its keys to the next** replaces the first one twice. -/
theorem not_substitutes_chained :
    (⟨.ofList [("f", chainedField)]⟩ : ModifyFields).check "p" = .ok () ∧
      chainedField.mapValues.get? "a" = some "b" ∧
      replaceAll (replacementList ⟨.ofList [("f", chainedField)]⟩)
        (fun _ => some (.text "a")) "f" = some (.text "c") ∧
      ¬ Substitutes ⟨.ofList [("f", chainedField)]⟩ "f" chainedField.mapValues := by
  have htwice : replaceAll (replacementList ⟨.ofList [("f", chainedField)]⟩)
      (fun _ => some (.text "a")) "f" = some (.text "c") := by
    rw [Replacement.replaceAll_apply, filter_replacementList (c := chainedField) rfl]
    rfl
  refine ⟨rfl, rfl, htwice, fun h => ?_⟩
  have honce := h fun _ => some (.text "a")
  rw [htwice] at honce
  exact absurd (Tree.text.inj (Option.some.inj honce)) (by decide)

end ModifyFields

end Telemetry
