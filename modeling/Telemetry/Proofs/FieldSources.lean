import Mathlib.Data.List.Pairwise
import Telemetry.Logging.ModifyFields
import Telemetry.Proofs.Failing
import Telemetry.Proofs.Keyed
import Telemetry.Proofs.Records

/-!
# Where changed fields get their values

Changes are applied one after the other: first the copies, then the moves, both in the order of the
fields that they are for. So a copy or a move reads what those before it have left.

* **`copies`**, **`moves`** — the pairs of source and target for which there is a change.
* **`Undisturbed`** — no change takes or replaces what another one is still to read, or has written.
* **`keepsValues_iff`** — this is exactly when every field with a source ends with the value that the
  source had at first. A copy can read what an earlier one has written: **`not_keepsValues_chained`**.
-/

namespace Telemetry

open Failing

namespace FieldChange

/-- A change that passes its check takes the value of its field from one place, and does not remove
it then. -/
theorem one_source {c : FieldChange} {id field : String} (hc : c.check id field = .ok ()) :
    (c.copyFrom = none ∨ c.moveFrom = none) ∧
      (c.copyFrom.isSome ∨ c.moveFrom.isSome → c.staticValue = none ∧ c.remove = false) := by
  obtain ⟨moveFrom, copyFrom, staticValue, defaultValue, mapValues, remove⟩ := c
  rw [check] at hc
  split at hc
  · exact nomatch hc
  · rename_i hsources
    split at hc
    · exact nomatch hc
    · rename_i hremove
      cases moveFrom <;> cases copyFrom <;> cases staticValue <;> simp_all [sources, givesValue]

end FieldChange

namespace ModifyFields

open Telemetry.Filter (applyAll applyAll_append applyAll_cons applyAll_brings of_applyAll of_applyAll_some
  applyAll_eq_none)
open Telemetry.Filter.ModifyOp (Preserves preserves_of_ne preserves_add preserves_hardCopy_self
  of_apply_some)

/-! ## Sources and targets -/

/-- The fields that get their value from another one, as pairs of source and target in ascending order
of the targets. -/
def pairs (m : ModifyFields) (source? : FieldChange → Option String) : List (String × String) :=
  m.fields.entries.filterMap fun (field, change) => (source? change).map fun source => (source, field)

/-- The copies as pairs of source and target. -/
def copies (m : ModifyFields) : List (String × String) := m.pairs (·.copyFrom)

/-- The moves as pairs of source and target. -/
def moves (m : ModifyFields) : List (String × String) := m.pairs (·.moveFrom)

/-- The changes behind all copies and moves. -/
def lastOps (m : ModifyFields) : List Filter.ModifyOp :=
  m.fields.entries.filterMap constant? ++ m.fields.entries.filterMap default?
    ++ m.fields.entries.filterMap removal?

/-- The change for a copy. -/
def copyOp (p : String × String) : Filter.ModifyOp := .hardCopy p.1 p.2

/-- The change for a move. -/
def moveOp (p : String × String) : Filter.ModifyOp := .hardRename p.1 p.2

theorem ops_eq (m : ModifyFields) :
    m.ops = m.copies.map copyOp ++ (m.moves.map moveOp ++ m.lastOps) := by
  have hcopies : m.fields.entries.filterMap copy? = m.copies.map copyOp := by
    rw [copies, pairs, List.map_filterMap]
    refine List.filterMap_congr ?_
    rintro ⟨field, change⟩ -
    simp [copy?, copyOp, Function.comp_def]
  have hmoves : m.fields.entries.filterMap move? = m.moves.map moveOp := by
    rw [moves, pairs, List.map_filterMap]
    refine List.filterMap_congr ?_
    rintro ⟨field, change⟩ -
    simp [move?, moveOp, Function.comp_def]
  rw [ops, hcopies, hmoves, lastOps]
  simp [List.append_assoc]

variable {m : ModifyFields} {p q : String × String}

theorem mem_pairs {source? : FieldChange → Option String} :
    p ∈ m.pairs source? ↔ ∃ c, m.fields.get? p.2 = some c ∧ source? c = some p.1 := by
  simp only [pairs, List.mem_filterMap, Prod.exists, Option.map_eq_some_iff,
    ← Keyed.mem_entries_iff]
  constructor
  · rintro ⟨field, c, hm, source, hs, rfl⟩
    exact ⟨c, hm, hs⟩
  · rintro ⟨c, hm, hs⟩
    exact ⟨p.2, c, hm, p.1, hs, rfl⟩

/-- Pairs come in strictly ascending order of their targets. -/
theorem ordered_pairs (m : ModifyFields) (source? : FieldChange → Option String) :
    (m.pairs source?).Pairwise (fun p q => p.2 < q.2) := by
  refine List.pairwise_filterMap.mpr (m.fields.ordered.imp ?_)
  rintro ⟨field, change⟩ ⟨field', change'⟩ hlt p hp q hq
  obtain ⟨-, -, rfl⟩ := Option.map_eq_some_iff.mp hp
  obtain ⟨-, -, rfl⟩ := Option.map_eq_some_iff.mp hq
  exact hlt

/-- A pair splits a list into the pairs with smaller and those with greater targets. -/
theorem exists_split {ps : List (String × String)} (hps : ps.Pairwise (fun p q => p.2 < q.2))
    (hp : p ∈ ps) : ∃ before after, ps = before ++ p :: after ∧ (∀ q ∈ before, q.2 < p.2) ∧
      ∀ q ∈ after, p.2 < q.2 := by
  obtain ⟨before, after, rfl⟩ := List.append_of_mem hp
  obtain ⟨-, hafter, hbetween⟩ := List.pairwise_append.mp hps
  exact ⟨before, after, rfl, fun q hq => hbetween q hq p List.mem_cons_self,
    (List.pairwise_cons.mp hafter).1⟩

theorem ne_of_lt {a b : String} (h : a < b) : a ≠ b := by
  rintro rfl
  exact String.lt_irrefl _ h

section Targets

variable {ps : List (String × String)} {key : String}

/-- Copies give values to their targets only. -/
theorem copies_target_ne (h : ∀ q ∈ ps, q.2 ≠ key) :
    ∀ op ∈ ps.map copyOp, op.target? ≠ some key :=
  List.forall_mem_map.mpr fun q hq ht => h q hq (Option.some.inj ht)

/-- Moves give values to their targets only. -/
theorem moves_target_ne (h : ∀ q ∈ ps, q.2 ≠ key) :
    ∀ op ∈ ps.map moveOp, op.target? ≠ some key :=
  List.forall_mem_map.mpr fun q hq ht => h q hq (Option.some.inj ht)

/-- Copies leave all fields but their targets. -/
theorem copies_preserve (h : ∀ q ∈ ps, q.2 ≠ key) : ∀ op ∈ ps.map copyOp, op.Preserves key :=
  List.forall_mem_map.mpr fun q hq =>
    preserves_of_ne (fun ht => h q hq (Option.some.inj ht)) (fun hc => nomatch hc)

/-- Moves leave all fields but their sources and targets. -/
theorem moves_preserve (h : ∀ q ∈ ps, q.2 ≠ key) (h' : ∀ q ∈ ps, q.1 ≠ key) :
    ∀ op ∈ ps.map moveOp, op.Preserves key :=
  List.forall_mem_map.mpr fun q hq =>
    preserves_of_ne (fun ht => h q hq (Option.some.inj ht)) (fun hc => h' q hq (Option.some.inj hc))

end Targets

/-! ## Changes that passed their check -/

section Checked

variable {id : String} (hm : m.check id = .ok ())
include hm

theorem check_of_get? {field : String} {c : FieldChange} (hget : m.fields.get? field = some c) :
    c.check id field = .ok () := by
  rw [check] at hm
  split at hm
  · exact nomatch hm
  · exact forM_eq_ok.mp hm (field, c) (Keyed.mem_entries_iff.mpr hget)

/-- No field is both copied and moved to. -/
theorem target_ne (hp : p ∈ m.copies) (hq : q ∈ m.moves) : q.2 ≠ p.2 := by
  obtain ⟨c, hget, hcopy⟩ := mem_pairs.mp hp
  obtain ⟨c', hget', hmove⟩ := mem_pairs.mp hq
  intro he
  rw [he, hget] at hget'
  obtain rfl := Option.some.inj hget'
  rcases (FieldChange.one_source (check_of_get? hm hget)).1 with hn | hn
  · rw [hn] at hcopy
    exact nomatch hcopy
  · rw [hn] at hmove
    exact nomatch hmove

/-- The change for a field that is copied or moved to neither sets nor removes it. -/
theorem change_of_mem (hp : p ∈ m.copies ++ m.moves) :
    ∃ c, m.fields.get? p.2 = some c ∧ c.staticValue = none ∧ c.remove = false := by
  rcases List.mem_append.mp hp with hp | hp
  · obtain ⟨c, hget, hsource⟩ := mem_pairs.mp hp
    exact ⟨c, hget, (FieldChange.one_source (check_of_get? hm hget)).2
      (.inl (Option.isSome_of_eq_some hsource))⟩
  · obtain ⟨c, hget, hsource⟩ := mem_pairs.mp hp
    exact ⟨c, hget, (FieldChange.one_source (check_of_get? hm hget)).2
      (.inr (Option.isSome_of_eq_some hsource))⟩

/-- What comes behind copies and moves leaves their targets alone if they have a value. -/
theorem lastOps_preserve (hp : p ∈ m.copies ++ m.moves) :
    ∀ op ∈ m.lastOps, op.Preserves p.2 := by
  obtain ⟨c, hget, hstatic, hremove⟩ := change_of_mem hm hp
  have hsame : ∀ e ∈ m.fields.entries, e.1 = p.2 → e.2 = c := by
    rintro ⟨field, c'⟩ he rfl
    rw [Keyed.mem_entries_iff, hget] at he
    exact (Option.some.inj he).symm
  intro op hop
  rcases List.mem_append.mp hop with hop | hop
  · rcases List.mem_append.mp hop with hop | hop
    · obtain ⟨e, he, hop⟩ := List.mem_filterMap.mp hop
      obtain ⟨value, hvalue, rfl⟩ := Option.map_eq_some_iff.mp hop
      refine preserves_of_ne (fun ht => ?_) (fun hc => nomatch hc)
      rw [hsame e he (Option.some.inj ht), hstatic] at hvalue
      exact nomatch hvalue
    · obtain ⟨e, -, hop⟩ := List.mem_filterMap.mp hop
      obtain ⟨value, -, rfl⟩ := Option.map_eq_some_iff.mp hop
      exact preserves_add _ _ _
  · obtain ⟨e, he, hop⟩ := List.mem_filterMap.mp hop
    obtain ⟨hremoved, rfl⟩ : e.2.remove = true ∧ Filter.ModifyOp.remove e.1 = op := by
      simpa [removal?] using hop
    refine preserves_of_ne (fun ht => nomatch ht) (fun hc => ?_)
    rw [hsame e he (Option.some.inj hc), hremove] at hremoved
    exact nomatch hremoved

end Checked

/-- What comes behind copies and moves brings texts only. -/
theorem of_applyAll_lastOps {r : LogRecord} {key : String} {ts : List Tree}
    (h : applyAll m.lastOps r key = some (.list ts)) : r key = some (.list ts) := by
  have hput : ∀ (r : LogRecord) (k value : String),
      r.put k (.text value) key = some (.list ts) → r key = some (.list ts) := by
    intro r k value h
    by_cases hk : key = k
    · rw [hk, LogRecord.put_self] at h
      cases h
    · rwa [LogRecord.put_of_ne hk] at h
  refine of_applyAll ?_ h
  intro op hop r hr
  rcases List.mem_append.mp hop with hop | hop
  · rcases List.mem_append.mp hop with hop | hop
    · obtain ⟨e, -, hop⟩ := List.mem_filterMap.mp hop
      obtain ⟨value, -, rfl⟩ := Option.map_eq_some_iff.mp hop
      exact hput r _ _ hr
    · obtain ⟨e, -, hop⟩ := List.mem_filterMap.mp hop
      obtain ⟨value, -, rfl⟩ := Option.map_eq_some_iff.mp hop
      rw [Filter.ModifyOp.apply] at hr
      split at hr
      · exact hput r _ _ hr
      · exact hr
  · obtain ⟨e, -, hop⟩ := List.mem_filterMap.mp hop
    obtain ⟨-, rfl⟩ : e.2.remove = true ∧ Filter.ModifyOp.remove e.1 = op := by
      simpa [removal?] using hop
    refine of_apply_some ?_ hr
    exact (Option.some_ne_none key).symm

/-! ## Changes that do not get into each other's way -/

/-- All copies and moves read their source before another one takes or replaces its value, and keep
what they have read. -/
structure Undisturbed (m : ModifyFields) : Prop where
  /-- A copy comes before one to its source, unless that is copied to itself. -/
  copies : ∀ p ∈ m.copies, ∀ q ∈ m.copies, q.2 = p.1 → p.1 < p.2 → q.1 = p.1
  /-- No field that is copied to is moved away. -/
  copied : ∀ p ∈ m.copies, ∀ q ∈ m.moves, q.1 ≠ p.2
  /-- A move comes before one to its source. -/
  moves : ∀ p ∈ m.moves, ∀ q ∈ m.moves, q.2 = p.1 → ¬ p.1 < p.2
  /-- No field is moved to two others. -/
  once : ∀ p ∈ m.moves, ∀ q ∈ m.moves, q.1 = p.1 → ¬ q.2 < p.2

instance : DecidablePred Undisturbed := fun m =>
  decidable_of_iff
    ((∀ p ∈ m.copies, ∀ q ∈ m.copies, q.2 = p.1 → p.1 < p.2 → q.1 = p.1) ∧
      (∀ p ∈ m.copies, ∀ q ∈ m.moves, q.1 ≠ p.2) ∧
      (∀ p ∈ m.moves, ∀ q ∈ m.moves, q.2 = p.1 → ¬ p.1 < p.2) ∧
      ∀ p ∈ m.moves, ∀ q ∈ m.moves, q.1 = p.1 → ¬ q.2 < p.2)
    ⟨fun ⟨h₁, h₂, h₃, h₄⟩ => ⟨h₁, h₂, h₃, h₄⟩, fun h => ⟨h.copies, h.copied, h.moves, h.once⟩⟩

/-- **Every field with a source ends with the value that the source had at first.** -/
def KeepsValues (m : ModifyFields) : Prop :=
  ∀ (r : LogRecord) (field source : String) (c : FieldChange) (v : Tree),
    m.fields.get? field = some c → c.copyFrom = some source ∨ c.moveFrom = some source →
    r source = some v → applyAll m.ops r field = some v

section Enough

variable {id : String} (hm : m.check id = .ok ()) (hu : m.Undisturbed) {r : LogRecord} {v : Tree}
include hm hu

/-- A copy is made of the value at first, and kept. -/
theorem applyAll_of_mem_copies (hp : p ∈ m.copies) (hv : r p.1 = some v) :
    applyAll m.ops r p.2 = some v := by
  obtain ⟨before, after, hsplit, hbefore, hafter⟩ := exists_split (m.ordered_pairs _) hp
  have hcopies : ∀ q, q ∈ before ∨ q ∈ after → q ∈ m.copies := by
    intro q hq
    rw [copies, hsplit]
    simpa using hq.imp_right .inr
  have hops : m.ops = before.map copyOp ++ copyOp p
      :: (after.map copyOp ++ (m.moves.map moveOp ++ m.lastOps)) := by
    rw [ops_eq, copies, hsplit]
    simp
  rw [hops]
  refine applyAll_brings ?_ ?_ ?_ hv
  · refine List.forall_mem_map.mpr fun q hq => ?_
    by_cases ht : q.2 = p.1
    · -- an earlier copy to the source can only be one to itself
      obtain ⟨qs, qt⟩ := q
      obtain rfl : qt = p.1 := ht
      obtain rfl : qs = p.1 := hu.copies p hp _ (hcopies _ (.inl hq)) rfl (hbefore _ hq)
      exact preserves_hardCopy_self p.1
    · exact preserves_of_ne (fun h => ht (Option.some.inj h)) (fun h => nomatch h)
  · intro r hr
    show r.copy p.1 p.2 p.2 = some v
    rw [LogRecord.copy_of_some hr, LogRecord.put_self]
  · refine List.forall_mem_append.mpr ⟨?_, List.forall_mem_append.mpr ⟨?_, ?_⟩⟩
    · exact copies_preserve fun q hq => (ne_of_lt (hafter q hq)).symm
    · exact moves_preserve (fun q hq => target_ne hm hp hq) (fun q hq => hu.copied p hp q hq)
    · exact lastOps_preserve hm (List.mem_append_left _ hp)

/-- A move brings the value at first, which is kept. -/
theorem applyAll_of_mem_moves (hp : p ∈ m.moves) (hv : r p.1 = some v) :
    applyAll m.ops r p.2 = some v := by
  obtain ⟨before, after, hsplit, hbefore, hafter⟩ := exists_split (m.ordered_pairs _) hp
  have hmoves : ∀ q, q ∈ before ∨ q ∈ after → q ∈ m.moves := by
    intro q hq
    rw [moves, hsplit]
    simpa using hq.imp_right .inr
  have hops : m.ops = (m.copies.map copyOp ++ before.map moveOp) ++ moveOp p
      :: (after.map moveOp ++ m.lastOps) := by
    rw [ops_eq, moves, hsplit]
    simp
  rw [hops]
  refine applyAll_brings ?_ ?_ ?_ hv
  · refine List.forall_mem_append.mpr ⟨?_, moves_preserve (fun q hq => ?_) (fun q hq => ?_)⟩
    · exact copies_preserve fun q hq => (hu.copied q hq p hp).symm
    · intro ht
      exact hu.moves p hp q (hmoves q (.inl hq)) ht (ht ▸ hbefore q hq)
    · intro hs
      exact hu.once p hp q (hmoves q (.inl hq)) hs (hbefore q hq)
  · intro r hr
    show r.move p.1 p.2 p.2 = some v
    rw [LogRecord.move_of_some hr, LogRecord.put_self]
  · refine List.forall_mem_append.mpr ⟨moves_preserve (fun q hq => ?_) (fun q hq => ?_), ?_⟩
    · exact (ne_of_lt (hafter q hq)).symm
    · intro hs
      exact hu.moves q (hmoves q (.inr hq)) p hp hs.symm (hs ▸ hafter q hq)
    · exact lastOps_preserve hm (List.mem_append_right _ hp)

end Enough

/-! ## What happens otherwise

In the record that holds the name of each field as its value, the values tell where they come from.
The names stand in lists, so that they differ from all constants. -/

/-- The value that tells the name of a field. -/
def nameOf (field : String) : Tree := .list [.text field]

/-- The record in which every field holds its own name. -/
def namedRecord : LogRecord := fun field => some (nameOf field)

theorem nameOf_injective : Function.Injective nameOf := by
  intro field field' h
  rw [nameOf, nameOf] at h
  exact Tree.text.inj (List.cons.inj (Tree.list.inj h)).1

/-- A field that is moved away is missing behind moves of which only earlier ones give it a value. -/
theorem applyAll_moves_eq_none {ps : List (String × String)}
    (hps : ps.Pairwise (fun p q => p.2 < q.2)) (hp : p ∈ ps) (hne : p.1 ≠ p.2)
    (hearlier : ∀ q ∈ ps, q.2 = p.1 → q.2 < p.2) (r : LogRecord) :
    applyAll (ps.map moveOp) r p.1 = none := by
  obtain ⟨before, after, rfl, -, hafter⟩ := exists_split hps hp
  rw [List.map_append, List.map_cons, applyAll_append, applyAll_cons]
  refine applyAll_eq_none (moves_target_ne fun q hq ht => ?_) (LogRecord.move_source hne _)
  have hq' : q ∈ before ++ p :: after := List.mem_append_right _ (List.mem_cons_of_mem _ hq)
  exact String.lt_asymm (hafter q hq) (hearlier q hq' ht)

section Needed

variable {id : String} (hm : m.check id = .ok ()) (hk : m.KeepsValues)
include hk

/-- A source is told by the value of its target behind all moves. -/
theorem applyAll_moves_of_keepsValues (hp : p ∈ m.copies ++ m.moves) :
    applyAll (m.moves.map moveOp) (applyAll (m.copies.map copyOp) namedRecord) p.2
      = some (nameOf p.1) := by
  have hends : applyAll m.ops namedRecord p.2 = some (nameOf p.1) := by
    rcases List.mem_append.mp hp with hp | hp
    · obtain ⟨c, hget, hsource⟩ := mem_pairs.mp hp
      exact hk namedRecord p.2 p.1 c (nameOf p.1) hget (.inl hsource) rfl
    · obtain ⟨c, hget, hsource⟩ := mem_pairs.mp hp
      exact hk namedRecord p.2 p.1 c (nameOf p.1) hget (.inr hsource) rfl
  rw [ops_eq, applyAll_append, applyAll_append] at hends
  exact of_applyAll_lastOps hends

/-- No field with a source of its own is moved to another name behind all moves to it. -/
theorem not_moved_of_keepsValues (hp : p ∈ m.copies ++ m.moves) (hq : q ∈ m.moves)
    (hne : q.1 ≠ q.2) (hearlier : ∀ q' ∈ m.moves, q'.2 = q.1 → q'.2 < q.2) : q.1 ≠ p.2 := by
  intro he
  have hordered : m.moves.Pairwise (fun p q => p.2 < q.2) := m.ordered_pairs _
  have hvalue := applyAll_moves_of_keepsValues hk hp
  rw [← he, applyAll_moves_eq_none hordered hq hne hearlier] at hvalue
  exact nomatch hvalue

theorem moves_of_keepsValues (hp : p ∈ m.moves) (hq : q ∈ m.moves) (ht : q.2 = p.1) :
    ¬ p.1 < p.2 := by
  intro hlt
  refine not_moved_of_keepsValues hk (List.mem_append_right _ hq) hp (ne_of_lt hlt) ?_ ht.symm
  intro q' _ ht'
  exact ht' ▸ hlt

include hm

theorem copied_of_keepsValues (hp : p ∈ m.copies) (hq : q ∈ m.moves) : q.1 ≠ p.2 := by
  intro hs
  refine not_moved_of_keepsValues hk (List.mem_append_left _ hp) hq ?_ ?_ hs
  · rw [hs]
    exact (target_ne hm hp hq).symm
  · intro q' hq' ht
    exact absurd (ht.trans hs) (target_ne hm hp hq')

/-- The value of a target behind all copies tells its source. -/
theorem applyAll_copies_of_keepsValues (hp : p ∈ m.copies) :
    applyAll (m.copies.map copyOp) namedRecord p.2 = some (nameOf p.1) := by
  refine of_applyAll_some (moves_target_ne fun q hq => target_ne hm hp hq) ?_
  exact applyAll_moves_of_keepsValues hk (List.mem_append_left _ hp)

theorem copies_of_keepsValues (hp : p ∈ m.copies) (hq : q ∈ m.copies) (ht : q.2 = p.1)
    (hlt : p.1 < p.2) : q.1 = p.1 := by
  obtain ⟨before, after, hsplit, -, hafter⟩ := exists_split (m.ordered_pairs _) hp
  have hvalue := applyAll_copies_of_keepsValues hm hk hp
  have hread := applyAll_copies_of_keepsValues hm hk hq
  rw [copies, hsplit, List.map_append, applyAll_append, List.map_cons] at hvalue hread
  -- when the copy is made, its source holds what the earlier one has written
  have hsource : applyAll (before.map copyOp) namedRecord p.1 = some (nameOf q.1) := by
    rw [ht, ← List.map_cons] at hread
    refine of_applyAll_some (copies_target_ne (List.forall_mem_cons.mpr ⟨?_, ?_⟩)) hread
    · exact (ne_of_lt hlt).symm
    · exact fun q' hq' => (ne_of_lt (String.lt_trans hlt (hafter q' hq'))).symm
  have hcopied : (copyOp p).apply (applyAll (before.map copyOp) namedRecord) p.2
      = some (nameOf p.1) := by
    rw [applyAll_cons] at hvalue
    exact of_applyAll_some (copies_target_ne fun q' hq' => (ne_of_lt (hafter q' hq')).symm) hvalue
  have hwritten : (copyOp p).apply (applyAll (before.map copyOp) namedRecord) p.2
      = some (nameOf q.1) := by
    show LogRecord.copy _ p.1 p.2 p.2 = _
    rw [LogRecord.copy_of_some hsource, LogRecord.put_self]
  rw [hwritten] at hcopied
  exact nameOf_injective (Option.some.inj hcopied)

theorem once_of_keepsValues (hp : p ∈ m.moves) (hq : q ∈ m.moves) (hs : q.1 = p.1) :
    ¬ q.2 < p.2 := by
  intro hlt
  obtain ⟨before, after, hsplit, hbefore, hafter⟩ := exists_split (m.ordered_pairs _) hp
  have hordered : before.Pairwise (fun p q => p.2 < q.2) :=
    (List.pairwise_append.mp (hsplit ▸ m.ordered_pairs _)).1
  have hsources : ∀ q' ∈ m.moves, q'.2 = p.1 → ¬ p.1 < p.2 := fun q' hq' =>
    moves_of_keepsValues hk hp hq'
  have hvalue := applyAll_moves_of_keepsValues hk (List.mem_append_right _ hp)
  have hmem : ∀ q', q' ∈ before ∨ q' = p ∨ q' ∈ after ↔ q' ∈ m.moves := by
    intro q'
    rw [moves, hsplit, List.mem_append, List.mem_cons]
  rw [moves, hsplit, List.map_append, applyAll_append, List.map_cons, applyAll_cons] at hvalue
  -- when the later move is made, the earlier one has taken the source away
  have hgone : applyAll (before.map moveOp) (applyAll (m.copies.map copyOp) namedRecord) p.1
      = none := by
    rw [← hs]
    refine applyAll_moves_eq_none hordered ?_ ?_ ?_ _
    · rcases (hmem q).mpr hq with hin | rfl | hin
      · exact hin
      · exact absurd hlt (String.lt_irrefl _)
      · exact absurd hlt (String.lt_asymm (hafter q hin))
    · intro he
      exact hsources q hq (he.symm.trans hs) (hs ▸ he ▸ hlt)
    · intro q' hin ht
      have ht' : q'.2 = p.1 := ht.trans hs
      exact absurd (ht' ▸ hbefore q' hin) (hsources q' ((hmem q').mp (.inl hin)) ht')
  have hmoved : (moveOp p).apply
      (applyAll (before.map moveOp) (applyAll (m.copies.map copyOp) namedRecord)) p.2
        = some (nameOf p.1) :=
    of_applyAll_some (moves_target_ne fun q' hin => (ne_of_lt (hafter q' hin)).symm) hvalue
  have hstays : applyAll (before.map moveOp) (applyAll (m.copies.map copyOp) namedRecord) p.2
      = some (nameOf p.1) := by
    rwa [moveOp, Filter.ModifyOp.apply, LogRecord.move_of_none hgone] at hmoved
  have hfirst : namedRecord p.2 = some (nameOf p.1) := by
    refine of_applyAll_some (copies_target_ne fun q' hq' => (target_ne hm hq' hp).symm) ?_
    exact of_applyAll_some (moves_target_ne fun q' hin => ne_of_lt (hbefore q' hin)) hstays
  have hself : p.2 = p.1 := nameOf_injective (Option.some.inj hfirst)
  rw [hself, hgone] at hstays
  cases hstays

end Needed

/-! ## All accepted changes -/

/-- **Fields keep the values of their sources exactly if no change disturbs another one.** -/
theorem keepsValues_iff {id : String} (hm : m.check id = .ok ()) :
    m.KeepsValues ↔ m.Undisturbed := by
  constructor
  · intro hk
    exact {
      copies := fun p hp q hq => copies_of_keepsValues hm hk hp hq
      copied := fun p hp q hq => copied_of_keepsValues hm hk hp hq
      moves := fun p hp q hq => moves_of_keepsValues hk hp hq
      once := fun p hp q hq => once_of_keepsValues hm hk hp hq }
  · rintro hu r field source c v hget (hsource | hsource) hv
    · exact applyAll_of_mem_copies (p := (source, field)) hm hu (mem_pairs.mpr ⟨c, hget, hsource⟩) hv
    · exact applyAll_of_mem_moves (p := (source, field)) hm hu (mem_pairs.mpr ⟨c, hget, hsource⟩) hv

/-- A field is copied while it is moved, and its new name takes the place of a third one. -/
def shiftedFields : ModifyFields where
  fields := .ofList [("a", { moveFrom := some "b" }), ("b", { moveFrom := some "c" }),
    ("d", { copyFrom := some "b" })]

/-- Sources that change their names after they are read keep their values. -/
theorem keepsValues_shifted :
    shiftedFields.check "p" = .ok () ∧ shiftedFields.KeepsValues := by
  have hm : shiftedFields.check "p" = .ok () := rfl
  exact ⟨hm, (keepsValues_iff hm).mpr (by decide)⟩

/-- A field that is copied over the source of a later copy. -/
def chainedFields : ModifyFields where
  fields := .ofList [("a", { copyFrom := some "x" }), ("b", { copyFrom := some "a" })]

/-- A record with both sources. -/
def chainedRecord : LogRecord :=
  LogRecord.put (LogRecord.put (fun _ => none) "x" (.text "first")) "a" (.text "second")

/-- **A copy of what another copy has written** does not hold the value that its source had at
first. -/
theorem not_keepsValues_chained :
    chainedFields.check "p" = .ok () ∧
      chainedFields.ops = [.hardCopy "x" "a", .hardCopy "a" "b"] ∧
      chainedRecord "a" = some (.text "second") ∧
      applyAll chainedFields.ops chainedRecord "b" = some (.text "first") ∧
      ¬ chainedFields.KeepsValues := by
  have hops : chainedFields.ops = [.hardCopy "x" "a", .hardCopy "a" "b"] := rfl
  have hfirst : applyAll chainedFields.ops chainedRecord "b" = some (.text "first") := by
    rw [hops]
    rfl
  refine ⟨rfl, hops, rfl, hfirst, fun hk => ?_⟩
  have hsecond : applyAll chainedFields.ops chainedRecord "b" = some (.text "second") :=
    hk chainedRecord "b" "a" { copyFrom := some "a" } _ rfl (.inl rfl) rfl
  rw [hfirst] at hsecond
  exact absurd (Tree.text.inj (Option.some.inj hsecond)) (by decide)

end ModifyFields

end Telemetry
