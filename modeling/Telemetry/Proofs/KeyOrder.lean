import Mathlib
import Telemetry.Compile.Basic
import Telemetry.Config.Read
import Telemetry.Proofs.BlankText
import Telemetry.Proofs.ValueOrder

/-!
# The order of the keys of a configuration

A configuration is read from a document without regard to the order of the keys of any mapping. The
readers of documents are taken one by one, from the texts at the leaves to the whole configuration:
each says the same of documents that are `Rearranged`.

* **`Rearranged.component?`** — the key that names the type of a component may come anywhere.
* **`Config.read_reordered`** — the same configuration, the same refusal and the same files.
-/

namespace Telemetry

open Shuffled (pair?)
open Value (respects_text?)

variable {α : Type}

/-! ## Documents -/

namespace Yaml.Document

theorem respects_text? : Respects Rearranged text? :=
  fun _ _ h => h.2.text?

theorem respects_texts? : Respects Rearranged texts? := by
  intro d d' h
  cases d with
  | scalar => rw [h.eq_scalar]
  | sequence tag items =>
      obtain ⟨items', rfl⟩ := h.eq_sequence
      exact mapM_eq_of_forall₂ (h.items.imp respects_text?)
  | mapping tag entries =>
      obtain ⟨entries', rfl⟩ := h.eq_mapping
      rfl

variable {read : Document → Option α}

theorem respects_keyed? (h : Respects Rearranged read) : Respects Rearranged (keyed? read) := by
  intro d d' hd
  cases d with
  | scalar => rw [hd.eq_scalar]
  | sequence tag items =>
      obtain ⟨items', rfl⟩ := hd.eq_sequence
      rfl
  | mapping tag entries =>
      obtain ⟨entries', rfl⟩ := hd.eq_mapping
      show (entries.mapM (pair? text? read)).bind (fun es => some (Keyed.ofList es))
        = (entries'.mapM (pair? text? read)).bind fun es => some (Keyed.ofList es)
      refine bind_eq_of_rel (sameTable_of_mapM hd.entries respects_text? h hd.nodup) ?_
      exact fun es es' hes => congrArg some hes

theorem respects_optional? (h : Respects Rearranged read) :
    Respects Rearranged (optional? read) := by
  intro d d' hd
  cases d with
  | scalar => rw [hd.eq_scalar]
  | sequence tag items =>
      obtain ⟨items', rfl⟩ := hd.eq_sequence
      exact congrArg (Option.map some) (h _ _ hd)
  | mapping tag entries =>
      obtain ⟨entries', rfl⟩ := hd.eq_mapping
      exact congrArg (Option.map some) (h _ _ hd)

/-! ## Fields -/

/-- Keeps entries with keys among the given ones, none of which may repeat. -/
def known? (names : List String) (fs : List (String × Document)) :
    Option (List (String × Document)) :=
  if fs.all (names.contains ·.1) && (fs.map (·.1)).Nodup then some fs else none

theorem fields?_scalar (names : List String) (tag : Option String) (isPlain : Bool)
    (text : String) : (scalar tag isPlain text).fields? names
      = if (scalar tag isPlain text).isBlank then some [] else none := by
  have hentries : (scalar tag isPlain text).entries?
      = if (scalar tag isPlain text).isBlank then some [] else none := rfl
  rw [Document.fields?, hentries]
  generalize (scalar tag isPlain text).isBlank = blank
  cases blank <;> rfl

theorem Rearranged.fields? {d d' : Document} (h : Rearranged d d') (names : List String) :
    Option.Rel (SameFields Rearranged) (d.fields? names) (d'.fields? names) := by
  cases d with
  | scalar tag isPlain text =>
      rw [h.eq_scalar, fields?_scalar]
      split
      · exact .some fun name => .none
      · exact .none
  | sequence tag items =>
      obtain ⟨items', rfl⟩ := h.eq_sequence
      exact .none
  | mapping tag entries =>
      obtain ⟨entries', rfl⟩ := h.eq_mapping
      show Option.Rel _ ((entries.mapM (pair? text? some)).bind (known? names))
        ((entries'.mapM (pair? text? some)).bind (known? names))
      have hread := h.entries.mapM_pair?
        (fun k k' hk => rel_of_eq (respects_text? k k' hk)) (fun v v' hv => .some hv)
      refine rel_bind hread fun fs fs' hfs => ?_
      have hall : fs.all (names.contains ·.1) = fs'.all (names.contains ·.1) := by
        simpa only [List.all_map, Function.comp_def]
          using hfs.keys_perm.all_eq (f := names.contains)
      simp only [known?, hall, hfs.keys_perm.nodup_iff]
      split
      · rename_i hn
        refine .some (hfs.lookup (hfs.keys_perm.nodup_iff.mpr ?_))
        simpa using (Bool.and_eq_true_iff.mp hn).2
      · exact .none

theorem fieldD_eq_elim (fs : List (String × Document)) (name : String) (default : α) :
    fieldD fs name default read = (fs.lookup name).elim (some default) read := by
  rw [fieldD]
  cases fs.lookup name <;> rfl

theorem fieldD_eq {fs fs' : List (String × Document)} (hfs : SameFields Rearranged fs fs')
    (h : Respects Rearranged read) (name : String) (default : α) :
    fieldD fs name default read = fieldD fs' name default read := by
  rw [fieldD_eq_elim, fieldD_eq_elim]
  exact eq_of_rel (rel_elim (hfs name) (fun d d' hd => rel_of_eq (h d d' hd)) rfl)

/-! ## Components -/

/-- Whether an entry names the type of a component. -/
def isType (e : Value × Document) : Bool :=
  e.1.text? = some "type"

theorem component?_mapping (tag : Option String) (entries : List (Document × Document)) :
    (mapping tag entries).component? =
      if isLocalTag tag then none
      else do
        let es ← entries.mapM (pair? value? some)
        let e ← Shuffled.only? (es.filter isType)
        let rest ← (es.filter (!isType ·)).mapM (pair? some value?)
        return (← e.2.text?, .table rest) := by
  rw [component?]
  split
  · rfl
  · refine bind_congr fun es => ?_
    have hnamed : es.filter (fun e => decide (e.1.text? = some "type")) = es.filter isType := rfl
    simp only [hnamed]
    generalize es.filter isType = named
    rcases named with _ | ⟨_, _ | ⟨_, _⟩⟩ <;> rfl

/-- **Reordered documents are seen as one component:** of one type, and with values alike. -/
theorem Rearranged.component? {d d' : Document} (h : Rearranged d d') :
    Option.Rel (Prod.RProd Eq Value.Alike) d.component? d'.component? := by
  cases d with
  | scalar tag isPlain text =>
      rw [h.eq_scalar]
      exact .none
  | sequence tag items =>
      obtain ⟨items', rfl⟩ := h.eq_sequence
      cases h.items with
      | nil => exact .none
      | cons htype hrest =>
          rw [Document.component?, Document.component?]
          split
          · exact .none
          · refine rel_bind (rel_of_eq (respects_text? _ _ htype)) fun type type' htype => ?_
            have hvalues := rel_mapM (hrest.imp fun _ _ hd => hd.value?)
            exact rel_bind hvalues fun vs vs' hvs => .some ⟨htype, .list hvs⟩
  | mapping tag entries =>
      obtain ⟨entries', rfl⟩ := h.eq_mapping
      rw [component?_mapping, component?_mapping]
      split
      · exact .none
      · -- the keys are typed first, and those that are texts stay distinct
        have hread := rel_and_left
          (h.entries.mapM_pair? (fun k k' hk => hk.value?) (fun v v' hv => .some hv))
          fun es hes => Shuffled.nodup_of_mapM_pair? hes (fun _ _ _ => text?_of_value?) h.nodup
        refine rel_bind hread fun es es' ⟨hn, hes⟩ => ?_
        have htype : ∀ e e', Prod.RProd Value.Alike Rearranged e e' → isType e = isType e' := by
          rintro _ _ ⟨hk, _⟩
          rw [isType, isType, Value.respects_text? _ _ hk]
        refine rel_bind (hes.filter htype).only fun e e' he => ?_
        -- then the other values, whose keys stay as they are
        have hothers := hes.filter fun e e' he => congrArg not (htype e e' he)
        have htable := rel_table (hothers.imp fun _ _ ⟨hk, hv⟩ => .intro (.some hk) hv.value?)
          (fun k k' s hk hs => Option.some.inj hk ▸ hs)
          (hn.sublist (List.filter_sublist.filterMap _))
        refine rel_bind htable fun rest rest' hrest => ?_
        refine rel_bind (rel_of_eq (he.casesOn fun _ hv => respects_text? _ _ hv)) ?_
        exact fun type type' htype => .some ⟨htype, hrest⟩

theorem respects_read? {read : String → Value → Option α}
    (h : ∀ type, Respects Value.Alike (read type)) : Respects Rearranged (read? read) := by
  intro d d' hd
  refine bind_eq_of_rel hd.component? ?_
  rintro _ _ ⟨rfl, hv⟩
  exact h _ _ _ hv

end Yaml.Document

/-! ## The configuration -/

open Yaml (Document)
open Yaml.Document

theorem LogEngine.respects_ofDocument? : Respects Rearranged LogEngine.ofDocument? := by
  intro d d' h
  cases d with
  | scalar => rw [h.eq_scalar]
  | sequence =>
      obtain ⟨_, rfl⟩ := h.eq_sequence
      rfl
  | mapping =>
      obtain ⟨_, rfl⟩ := h.eq_mapping
      rfl

theorem LogPipeline.respects_ofDocument? : Respects Rearranged LogPipeline.ofDocument? := by
  intro d d' h
  refine bind_eq_of_rel (h.fields? _) fun fs fs' hfs => ?_
  simp only [fieldD_eq hfs respects_texts?, fieldD_eq hfs LogEngine.respects_ofDocument?]

theorem MetricsPipeline.respects_ofDocument? :
    Respects Rearranged MetricsPipeline.ofDocument? := by
  intro d d' h
  refine bind_eq_of_rel (h.fields? _) fun fs fs' hfs => ?_
  simp only [fieldD_eq hfs respects_texts?]

theorem respects_serviceOfDocument? {pipeline : Document → Option α}
    (h : Respects Rearranged pipeline) : Respects Rearranged (serviceOfDocument? pipeline) := by
  intro d d' hd
  refine bind_eq_of_rel (hd.fields? _) fun fs fs' hfs => ?_
  simp only [fieldD_eq hfs (respects_optional? respects_text?), fieldD_eq hfs (respects_keyed? h)]

theorem Logging.respects_ofDocument? : Respects Rearranged Logging.ofDocument? := by
  intro d d' h
  refine bind_eq_of_rel (h.fields? _) fun fs fs' hfs => ?_
  simp only [fieldD_eq hfs (respects_keyed? (respects_read? LogReceiverConfig.respects_ofValue?)),
    fieldD_eq hfs (respects_keyed? (respects_read? LogProcessorConfig.respects_ofValue?)),
    fieldD_eq hfs (respects_keyed? (respects_read? LogExporter.respects_ofValue?)),
    fieldD_eq hfs (respects_serviceOfDocument? LogPipeline.respects_ofDocument?)]

theorem Metrics.respects_ofDocument? : Respects Rearranged Metrics.ofDocument? := by
  intro d d' h
  refine bind_eq_of_rel (h.fields? _) fun fs fs' hfs => ?_
  simp only [fieldD_eq hfs (respects_keyed? (respects_read? MetricsReceiver.respects_ofValue?)),
    fieldD_eq hfs (respects_keyed? (respects_read? MetricsProcessor.respects_ofValue?)),
    fieldD_eq hfs (respects_keyed? (respects_read? MetricsExporter.respects_ofValue?)),
    fieldD_eq hfs (respects_serviceOfDocument? MetricsPipeline.respects_ofDocument?)]

theorem Config.respects_ofDocument? : Respects Rearranged Config.ofDocument? := by
  intro d d' h
  refine bind_eq_of_rel (h.fields? _) fun fs fs' hfs => ?_
  simp only [fieldD_eq hfs (respects_optional? Logging.respects_ofDocument?),
    fieldD_eq hfs (respects_optional? Metrics.respects_ofDocument?)]

/-- A text that holds a collection is read as that. -/
theorem Config.parse?_of_document {s : String} {d : Document}
    (hs : Document.parse? s = some (some d))
    (hroot : ∀ tag isPlain text, d ≠ .scalar tag isPlain text) : parse? s = ofDocument? d := by
  have hblank : ¬ Text.isBlankText s = true := by
    intro hblank
    obtain ⟨tag, isPlain, text, rfl⟩ := eq_scalar_of_isBlankText hblank hs
    exact hroot tag isPlain text rfl
  rw [parse?, if_neg hblank, hs]
  rfl

/-- **The order of the keys does not matter.** Documents in which no mapping has two keys with one
text, and which differ in the order of the entries of their mappings only, are read as one
configuration, or refused for one reason; and so are any texts that hold them, unless there is only
a scalar, which has no keys to reorder. -/
theorem Config.read_reordered {d d' : Document} (hkeys : d.DistinctKeys) (h : Reordered d d') :
    accept (ofDocument? d) = accept (ofDocument? d') ∧
    ∀ s s', Document.parse? s = some (some d) → Document.parse? s' = some (some d') →
      (∀ tag isPlain text, d ≠ .scalar tag isPlain text) →
      read s = read s' ∧
      ∀ b p o, (read s >>= fun c => compile c b p o) = read s' >>= fun c => compile c b p o := by
  have hsame : ofDocument? d = ofDocument? d' := Config.respects_ofDocument? d d' ⟨hkeys, h⟩
  refine ⟨congrArg accept hsame, ?_⟩
  intro s s' hs hs' hroot
  have hroot' : ∀ tag isPlain text, d' ≠ .scalar tag isPlain text := by
    intro tag isPlain text heq
    cases h with
    | refl => exact hroot tag isPlain text heq
    | sequence => exact nomatch heq
    | mapping => exact nomatch heq
  have hread : read s = read s' := by
    rw [read, read, parse?_of_document hs hroot, parse?_of_document hs' hroot', hsame]
  exact ⟨hread, fun b p o => by rw [hread]⟩

/-- A document with a receiver of logs that has the given entries. -/
def receiverDocument (entries : List (Document × Document)) : Document :=
  .mapping none [(.scalar none true "logging",
    .mapping none [(.scalar none true "receivers",
      .mapping none [(.scalar none true "a", .mapping none entries)])])]

/-- The entries of a file receiver. -/
def fileEntries : List (Document × Document) :=
  [(.scalar none true "type", .scalar none true "files"),
    (.scalar none true "include_paths", .sequence none [.scalar none true "/a.log"])]

theorem reordered_receiverDocument {entries entries' : List (Document × Document)}
    (h : entries.Perm entries') :
    Reordered (receiverDocument entries) (receiverDocument entries') := by
  have hinner : Reordered (.mapping none entries) (.mapping none entries') :=
    .mapping none h (List.forall₂_same.mpr fun e _ => ⟨.refl e.1, .refl e.2⟩)
  have hwrap : ∀ (k : String) {d d' : Document}, Reordered d d' →
      Reordered (.mapping none [(.scalar none true k, d)])
        (.mapping none [(.scalar none true k, d')]) :=
    fun k _ _ hd => .mapping none (.refl _) (.cons ⟨.refl _, hd⟩ .nil)
  exact hwrap _ (hwrap _ (hwrap _ hinner))

theorem distinctKeys_fileEntries : (receiverDocument fileEntries).DistinctKeys := by
  have hscalar : ∀ k, DistinctKeys (.scalar none true k) := fun k => .scalar none true k
  have hpaths : DistinctKeys (.sequence none [.scalar none true "/a.log"]) :=
    .sequence none (by simpa using hscalar _)
  have hinner : DistinctKeys (.mapping none fileEntries) := by
    refine .mapping none (by decide) ?_ ?_
    · simp [fileEntries, hscalar]
    · simp [fileEntries, hscalar, hpaths]
  have hwrap : ∀ (k : String) {d : Document}, d.DistinctKeys →
      DistinctKeys (.mapping none [(.scalar none true k, d)]) := by
    intro k d hd
    refine .mapping none (List.nodup_singleton k) ?_ ?_
    · simpa using hscalar k
    · simpa using hd
  exact hwrap _ (hwrap _ (hwrap _ hinner))

/-- A file receiver whose type comes first. -/
def typeFirst : String :=
  "logging:\n receivers:\n  a:\n   type: files\n   include_paths: [/a.log]\n"

/-- The same receiver; its type comes last. -/
def typeLast : String :=
  "logging:\n receivers:\n  a:\n   include_paths: [/a.log]\n   type: files\n"

theorem Config.read_reordered_typeLast :
    (receiverDocument fileEntries).DistinctKeys ∧
    Reordered (receiverDocument fileEntries) (receiverDocument fileEntries.reverse) ∧
    Document.parse? typeFirst = some (some (receiverDocument fileEntries)) ∧
    Document.parse? typeLast = some (some (receiverDocument fileEntries.reverse)) ∧
    read typeFirst = read typeLast := by
  have hkeys := distinctKeys_fileEntries
  have h := reordered_receiverDocument (List.reverse_perm fileEntries).symm
  have hfirst : Document.parse? typeFirst = some (some (receiverDocument fileEntries)) := by cbv
  have hlast : Document.parse? typeLast = some (some (receiverDocument fileEntries.reverse)) := by cbv
  have hsame := (read_reordered hkeys h).2 _ _ hfirst hlast (by rintro _ _ _ ⟨⟩)
  exact ⟨hkeys, h, hfirst, hlast, hsame.1⟩

end Telemetry
