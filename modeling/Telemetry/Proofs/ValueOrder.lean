import Telemetry.Config.Decode
import Telemetry.Proofs.Reordered

/-!
# Values with their keys in another order

Whatever is read of values that are alike is the same: scalars, lists, tables, whose entries come in
the order of their keys in the end, and records, whose fields are looked up by name. So every
component is read from its values without regard to the order of its parameters.

* **`Value.Alike.record?`** — the fields of a record are alike.
* **`LogReceiverConfig.respects_ofValue?`**, **`LogProcessorConfig.respects_ofValue?`** and so on —
  each component is read alike.
-/

namespace Telemetry

open Shuffled (pair?)

variable {α β γ : Type} {R : α → α → Prop} {S : β → β → Prop}

/-! ## Readers that do not see the order -/

/-- A function that does not tell related things apart. -/
def Respects (R : α → α → Prop) (f : α → β) : Prop :=
  ∀ a a', R a a' → f a = f a'

/-- Fields of which each one is missing from both lists, or related in them. -/
def SameFields (R : α → α → Prop) (fs fs' : List (String × α)) : Prop :=
  ∀ name, Option.Rel R (fs.lookup name) (fs'.lookup name)

/-- Entries that make one table. -/
def SameTable (es es' : List (String × α)) : Prop :=
  Keyed.ofList es = Keyed.ofList es'

/-- Shuffled entries are read as the same table if the keys have distinct texts. -/
theorem sameTable_of_mapM {key : α → Option String} {value : β → Option γ} {es es' : List (α × β)}
    (h : Shuffled (Prod.RProd R S) es es') (hkey : Respects R key) (hvalue : Respects S value)
    (hn : (es.filterMap (key ·.1)).Nodup) :
    Option.Rel SameTable (es.mapM (pair? key value)) (es'.mapM (pair? key value)) := by
  have hread := h.mapM_pair? (fun k k' hk => rel_of_eq (hkey k k' hk))
    (fun v v' hv => rel_of_eq (hvalue v v' hv))
  have hnodup : ∀ fs, es.mapM (pair? key value) = some fs → (fs.map (·.1)).Nodup := by
    intro fs hfs
    rw [← List.filterMap_eq_map]
    exact Shuffled.nodup_of_mapM_pair? hfs (fun k k' s hk hs => hk.trans hs) hn
  refine rel_imp (rel_and_left hread hnodup) fun fs fs' ⟨hfs, hsh⟩ => ?_
  have hperm := hsh.map_perm (f := id) fun _ _ ⟨hk, hv⟩ => Prod.ext hk hv
  rw [List.map_id, List.map_id] at hperm
  exact Keyed.ofList_eq_of_perm hperm hfs

/-! ## Values -/

namespace Value

theorem respects_text? : Respects Alike text? := by
  rintro _ _ (_ | _ | _) <;> rfl

theorem respects_bool? : Respects Alike bool? := by
  rintro _ _ (_ | _ | _) <;> rfl

theorem respects_port? : Respects Alike port? := by
  rintro _ _ (_ | _ | _) <;> rfl

theorem respects_fieldName? (names : List String) : Respects Alike (fieldName? names) := by
  rintro _ _ (_ | _ | _) <;> rfl

variable {read : Value → Option α}

theorem respects_optional? (h : Respects Alike read) : Respects Alike (optional? read) := by
  intro v v' hv
  cases hv with
  | refl => rfl
  | list hrel => exact congrArg (Option.map some) (h _ _ (.list hrel))
  | table hn hperm hrel => exact congrArg (Option.map some) (h _ _ (.table hn hperm hrel))

theorem respects_list? (h : Respects Alike read) : Respects Alike (list? read) := by
  intro v v' hv
  cases hv with
  | refl => rfl
  | list hrel => exact mapM_eq_of_forall₂ (hrel.imp h)
  | table => rfl

theorem Alike.table? {v v' : Value} (hv : Alike v v') (h : Respects Alike read) :
    Option.Rel SameTable (table? read v) (table? read v') := by
  cases hv with
  | refl => exact rel_refl (R := SameTable) (fun _ => rfl) _
  | list => exact .none
  | table hn hperm hrel => exact sameTable_of_mapM ⟨_, hperm, hrel⟩ respects_text? h hn

theorem Alike.zip (names : List String) {vs vs' : List Value} (h : List.Forall₂ Alike vs vs') :
    List.Forall₂ (Prod.RProd Eq Alike) (names.zip vs) (names.zip vs') := by
  induction h generalizing names with
  | nil => simp
  | cons hv _ ih =>
      cases names with
      | nil => exact .nil
      | cons name names => exact .cons ⟨rfl, hv⟩ (ih names)

/-- Records with related fields. -/
def Record.Alike (r r' : Record) : Prop :=
  SameFields Value.Alike r.fields r'.fields

theorem Alike.record? {v v' : Value} (hv : Alike v v') (names : List String) :
    Option.Rel Record.Alike (v.record? names) (v'.record? names) := by
  cases hv with
  | refl => exact rel_refl (R := Record.Alike) (fun r name => rel_refl Alike.refl _) _
  | list hrel =>
      rw [Value.record?, Value.record?, hrel.length_eq]
      split
      · exact .some (Shuffled.rel_lookup (Alike.zip names hrel))
      · exact .none
  | table hn hperm hrel =>
      have hread := Shuffled.mapM_pair? ⟨_, hperm, hrel⟩
        (fun k k' hk => rel_of_eq (respects_fieldName? names k k' hk)) (fun v v' hv => .some hv)
      refine rel_bind hread fun fs fs' hfs => ?_
      simp only [hfs.keys_perm.nodup_iff]
      split
      · exact .some (hfs.lookup (hfs.keys_perm.nodup_iff.mpr ‹_›))
      · exact .none

theorem Record.getD_eq_elim (r : Record) (name : String) (default : α) :
    r.getD name default read = (r.fields.lookup name).elim (some default) read := by
  rw [Record.getD]
  cases r.fields.lookup name <;> rfl

namespace Record.Alike

variable {r r' : Record}

theorem getD (hr : r.Alike r') (h : Respects Value.Alike read) (name : String) (default : α) :
    r.getD name default read = r'.getD name default read := by
  rw [Record.getD_eq_elim, Record.getD_eq_elim]
  exact eq_of_rel (rel_elim (hr name) (fun v v' hv => rel_of_eq (h v v' hv)) rfl)

theorem get? (hr : r.Alike r') (h : Respects Value.Alike read) (name : String) :
    r.get? name read = r'.get? name read :=
  hr.getD (respects_optional? h) name none

/-- A table that may be missing, whose entries may stand in another order. -/
theorem getD_table (hr : r.Alike r') (h : Respects Value.Alike read) (name : String) :
    Option.Rel SameTable (r.getD name [] (table? read)) (r'.getD name [] (table? read)) := by
  rw [Record.getD_eq_elim, Record.getD_eq_elim]
  exact rel_elim (hr name) (fun _ _ hv => hv.table? h) rfl

theorem get_rel {P : α → α → Prop} (hr : r.Alike r')
    (h : ∀ v v', Value.Alike v v' → Option.Rel P (read v) (read v')) (name : String) :
    Option.Rel P (r.get name read) (r'.get name read) :=
  rel_bind (hr name) h

theorem get (hr : r.Alike r') (h : Respects Value.Alike read) (name : String) :
    r.get name read = r'.get name read :=
  bind_eq_of_rel (hr name) h

end Record.Alike

end Value

/-! ## Components -/

open Value

theorem FileSource.respects_ofValue? : Respects Alike FileSource.ofValue? := by
  intro v v' hv
  refine bind_eq_of_rel (hv.record? _) fun r r' hr => ?_
  simp only [hr.getD (respects_list? respects_text?), hr.get? respects_text?,
    hr.getD respects_bool?]

theorem LogReceiverConfig.respects_ofValue? (type : String) :
    Respects Alike (LogReceiverConfig.ofValue? type) := by
  intro v v' hv
  have hfile := FileSource.respects_ofValue? v v' hv
  unfold LogReceiverConfig.ofValue?
  split
  · rw [hfile]
  · refine bind_eq_of_rel (hv.record? _) fun r r' hr => ?_
    simp only [hr.get respects_text?, hr.get respects_port?]
  · refine bind_eq_of_rel (hv.record? _) fun r r' hr => ?_
    simp only [hr.get respects_text?, hr.get? respects_text?, hr.get? respects_port?]
  · refine bind_eq_of_rel (hv.record? _) fun r r' hr => ?_
    simp only [hr.get? respects_text?, hr.get? respects_port?]
  · refine bind_eq_of_rel (hv.record? _) fun r r' hr => ?_
    simp only [hr.get (respects_list? respects_text?)]
  · rw [hfile]

theorem ParseJson.respects_ofValue? : Respects Alike ParseJson.ofValue? := by
  intro v v' hv
  refine bind_eq_of_rel (hv.record? _) fun r r' hr => ?_
  simp only [hr.get? respects_text?]

theorem ParseRegex.respects_ofValue? : Respects Alike ParseRegex.ofValue? := by
  intro v v' hv
  refine bind_eq_of_rel (hv.record? _) fun r r' hr => ?_
  simp only [hr.get? respects_text?, hr.get respects_text?]
  iterate 4 refine bind_congr fun _ => ?_
  refine bind_eq_of_rel (hr.getD_table respects_text? _) fun types types' htypes => ?_
  rw [htypes]

theorem LineGroup.respects_ofValue? : Respects Alike LineGroup.ofValue? := by
  intro v v' hv
  refine bind_eq_of_rel (hv.record? _) fun r r' hr => ?_
  simp only [hr.get respects_text?]

theorem ExcludeRule.respects_ofValue? : Respects Alike ExcludeRule.ofValue? := by
  intro v v' hv
  refine bind_eq_of_rel (hv.record? _) fun r r' hr => ?_
  simp only [hr.get respects_text?]

theorem FieldChange.respects_ofValue? : Respects Alike FieldChange.ofValue? := by
  intro v v' hv
  refine bind_eq_of_rel (hv.record? _) fun r r' hr => ?_
  simp only [hr.get? respects_text?, hr.getD respects_bool?]
  iterate 4 refine bind_congr fun _ => ?_
  refine bind_eq_of_rel (hr.getD_table respects_text? _) fun values values' hvalues => ?_
  rw [hvalues]

theorem LogProcessorConfig.respects_ofValue? (type : String) :
    Respects Alike (LogProcessorConfig.ofValue? type) := by
  intro v v' hv
  unfold LogProcessorConfig.ofValue?
  split
  · rw [ParseJson.respects_ofValue? v v' hv]
  · rw [ParseRegex.respects_ofValue? v v' hv]
  · refine bind_eq_of_rel (hv.record? _) fun r r' hr => ?_
    simp only [hr.get (respects_list? LineGroup.respects_ofValue?)]
  · refine bind_eq_of_rel (hv.record? _) fun r r' hr => ?_
    simp only [hr.get (respects_list? ExcludeRule.respects_ofValue?)]
  · refine bind_eq_of_rel (hv.record? _) fun r r' hr => ?_
    have htable := hr.get_rel (fun _ _ hv => hv.table? FieldChange.respects_ofValue?) "fields"
    refine bind_eq_of_rel htable fun fields fields' hfields => ?_
    rw [hfields]
  · exact bind_congr fun app => bind_eq_of_rel (hv.record? _) fun _ _ _ => rfl

theorem LogExporter.respects_ofValue? (type : String) :
    Respects Alike (LogExporter.ofValue? type) := by
  intro v v' hv
  unfold LogExporter.ofValue?
  split
  · rw [Option.map_eq_bind, Option.map_eq_bind]
    exact bind_eq_of_rel (hv.record? _) fun _ _ _ => rfl
  · rfl

theorem MetricsReceiver.respects_ofValue? (type : String) :
    Respects Alike (MetricsReceiver.ofValue? type) := by
  intro v v' hv
  unfold MetricsReceiver.ofValue?
  split
  case h_4 => rfl
  all_goals
    refine bind_eq_of_rel (hv.record? _) fun r r' hr => ?_
    simp only [hr.get? respects_text?]

theorem MetricsProcessor.respects_ofValue? (type : String) :
    Respects Alike (MetricsProcessor.ofValue? type) := by
  intro v v' hv
  unfold MetricsProcessor.ofValue?
  split
  · refine bind_eq_of_rel (hv.record? _) fun r r' hr => ?_
    simp only [hr.get (respects_list? respects_text?)]
  · rfl

theorem MetricsExporter.respects_ofValue? (type : String) :
    Respects Alike (MetricsExporter.ofValue? type) := by
  intro v v' hv
  unfold MetricsExporter.ofValue?
  split
  case h_3 => rfl
  all_goals
    rw [Option.map_eq_bind, Option.map_eq_bind]
    exact bind_eq_of_rel (hv.record? _) fun _ _ _ => rfl

end Telemetry
