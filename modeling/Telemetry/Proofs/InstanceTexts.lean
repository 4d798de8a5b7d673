import Telemetry.Proofs.Instance
import Telemetry.Proofs.Written

/-!
# The texts of an instance

The sections of an instance are addressed by its tag, and hold texts that the configuration gives:
paths, hosts, fields, expressions and the two ids.

* **`LogReceiver.writes`**, **`LogProcessor.writes`** — the sections of one component, with its
  texts.
* **`LogInstance.sections_addressed`** — all sections of an instance are addressed by its tag.
* **`LogInstance.oneLined_iff`** — they are one line each exactly if all texts of the instance are.
-/

namespace Telemetry

open Failing

variable {t : Tag} {ss : List Section}

/-! ## Processors -/

/-- The texts of changes to fields. -/
def ModifyFields.texts (m : ModifyFields) : List String :=
  m.ops.flatMap (·.texts)
    ++ m.fields.entries.flatMap fun f =>
      f.2.mapValues.entries.flatMap fun row => [f.1, row.1, row.2]

theorem ModifyFields.writes (m : ModifyFields) : Writes t (m.sections t) m.texts := by
  refine Writes.append ?_ (Writes.flatMap ?_)
  · split
    · rename_i h
      rw [List.isEmpty_iff.mp h]
      exact Writes.nil
    · exact Writes.modify m.ops
  · intro f _
    have hrows : replacements t.routing f = f.2.mapValues.entries.flatMap fun row =>
        [Filter.modifyIf t.routing (Filter.keyEquals f.1 row.1) (.set f.1 row.2)] :=
      List.map_eq_flatMap
    rw [hrows]
    refine Writes.flatMap ?_
    intro row _
    refine (Writes.modifyIf (Filter.keyEquals f.1 row.1) (.set f.1 row.2)).congr fun _ => ?_
    simp [Filter.oneLine_keyEquals, Filter.ModifyOp.texts, and_assoc]
    tauto

namespace LogProcessor

/-- The texts of a processor. -/
def texts : LogProcessor → List String
  | configured (.parseJson p) =>
    p.timeKey.toList ++ p.timeFormat.toList ++ [Filter.parseKey p.field]
  | configured (.parseRegex p) =>
    p.regex :: p.timeKey.toList ++ p.timeFormat.toList ++ ParserDef.typeTexts p.types
      ++ [Filter.parseKey p.field]
  | configured (.parseMultiline gs) => (LineGroup.rules gs).flatMap (·.texts)
  | configured (.excludeLogs rs) => rs.flatMap fun r => [r.field, r.regex]
  | configured (.modifyFields m) => m.texts
  | configured (.app _) => []
  | builtinParser name => [name]
  | severity source table => table.flatMap fun row => [source, row.1, row.2]
  | httpRequest => []

/-- **What a processor writes.** The name for what it brings along comes from the tag. -/
theorem writes {p : LogProcessor} {uid : String} (hu : t.Clean → OneLine uid)
    (h : p.sections? t uid = some ss) : Writes t ss p.texts := by
  have hline : t.Clean → OneLine ("multiline." ++ uid) := by
    intro ht
    simp +decide [hu ht]
  match p with
  | configured (.parseJson q) =>
      obtain rfl := Option.some.inj h
      refine ((Writes.parserDef (d := q.parser uid) hu).cons
        (Writes.parseChain q.field hu false)).congr fun _ => ?_
      have htypes : ParserDef.typeTexts .empty = [] := rfl
      simp [ParserDef.texts, ParseJson.parser, texts, htypes]
  | configured (.parseRegex q) =>
      obtain rfl := Option.some.inj h
      refine ((Writes.parserDef (d := q.parser uid) hu).cons
        (Writes.parseChain q.field hu false)).congr fun _ => ?_
      simp [ParserDef.texts, ParseRegex.parser, texts]
  | configured (.parseMultiline gs) =>
      obtain rfl := Option.some.inj h
      refine ((Writes.lineParser hline (LineGroup.rules gs)).cons
        (Writes.joinLines hline)).congr fun _ => ?_
      rw [List.append_nil]
      rfl
  | configured (.excludeLogs rs) =>
      obtain rfl := Option.some.inj h
      refine (Writes.exclude (rs.map fun r => (r.field, r.regex))).congr fun _ => ?_
      rw [List.flatMap_map]
      rfl
  | configured (.modifyFields m) =>
      obtain rfl := Option.some.inj h
      exact m.writes
  | configured (.app _) => simp [sections?] at h
  | builtinParser name =>
      obtain rfl := Option.some.inj h
      refine (Writes.parse Filter.defaultParseKey [name] false).congr fun _ => ?_
      simp +decide [texts]
  | severity source table =>
      obtain rfl := Option.some.inj h
      refine (Writes.mapValues source severityKey table).congr fun _ => ?_
      simp +decide [texts, List.forall_mem_flatMap, -List.mem_flatMap]
  | httpRequest =>
      obtain rfl := Option.some.inj h
      -- a value that is a dash is removed, by one filter for each field
      have hdashes : (dashFields.map fun field =>
          Filter.modifyIf t.routing (Filter.keyEquals field "-") (.remove field))
          = dashFields.flatMap fun field =>
            [Filter.modifyIf t.routing (Filter.keyEquals field "-") (.remove field)] :=
        List.map_eq_flatMap
      rw [requestFilters, hdashes]
      refine ((Writes.flatMap fun field _ => Writes.modifyIf (Filter.keyEquals field "-")
        (.remove field)).append (Writes.nestFields _ _ _)).congr fun _ => ?_
      exact iff_of_true (by decide) (List.forall_mem_nil _)

end LogProcessor

/-! ## Receivers -/

/-- The texts of the files to read. Without paths there is no input. -/
def FileSource.texts (s : FileSource) : List String :=
  if s.includePaths.isEmpty then [] else s.includePaths ++ s.excludePaths

theorem FileSource.writes (hd : t.dynamic = false) (s : FileSource) (rules : List Filter.LineRule) :
    Writes t (s.sections rules t) (rules.flatMap (·.texts) ++ s.texts) := by
  -- the input is the same with and without rules, but for the parser that joins its lines
  have hinput : ∀ parser : Option String, (t.Clean → ∀ n ∈ parser, OneLine n) →
      Writes t ((s.input parser).section? t).toList s.texts := by
    intro parser hparser
    refine (Writes.tail hd hparser).congr fun _ => ?_
    show (∀ text ∈ if s.includePaths.isEmpty then [] else s.includePaths ++ s.excludePaths
      ++ (if s.recordPath then some filePathKey else none).toList, OneLine text) ↔ _
    rw [texts]
    split
    · rfl
    · split <;> simp +decide [List.forall_mem_append, -List.mem_append]
  have hline : t.Clean → OneLine ("multiline." ++ t.base) := by
    intro ht
    simp +decide [ht.base]
  rw [sections]
  split
  · rename_i h
    rw [List.isEmpty_iff.mp h]
    exact hinput none (by simp)
  · refine ((Writes.lineParser hline rules).cons ((Writes.modify [.rename "log" "message"]).cons
      ((Writes.scriptFilter "strip_newline" (by decide) Script.stripNewline).append
        (hinput (some ("multiline." ++ t.base)) ?_)))).congr fun _ => ?_
    · intro ht n hn
      obtain rfl := Option.some.inj hn
      exact hline ht
    · simp +decide [List.forall_mem_append, Filter.ModifyOp.texts, -List.mem_append,
        -List.mem_flatMap]

namespace LogReceiver

/-- The texts of a receiver. -/
def texts : LogReceiver → List String
  | configured (.files s) => s.texts
  | configured (.syslog transport host _) => [transport, host]
  | configured (.tcp host _ format) => [host.getD defaultListenHost, format]
  | configured (.forward host _) => [host.getD defaultListenHost]
  | configured (.eventLog channels) => channels
  | configured (.app _ _) => []
  | tail s rules => rules.flatMap (·.texts) ++ s.texts

/-- **What a receiver writes.** -/
theorem writes {r : LogReceiver} (hd : t.dynamic = r.hasDynamicTag) (h : r.sections? t = some ss) :
    Writes t ss r.texts := by
  match r with
  | configured (.files s) =>
      obtain rfl := Option.some.inj h
      exact s.writes hd []
  | configured (.syslog transport host port) =>
      obtain rfl := Option.some.inj h
      exact Writes.syslog hd transport host port.toNat
  | configured (.tcp host port format) =>
      obtain rfl := Option.some.inj h
      exact Writes.tcp hd _ _ format
  | configured (.forward host port) =>
      obtain rfl := Option.some.inj h
      exact Writes.forward hd _ _
  | configured (.eventLog channels) =>
      obtain rfl := Option.some.inj h
      have hparser : t.Clean → OneLine (t.base ++ ".timestamp_parser") := by
        intro ht
        simp +decide [ht.base]
      refine ((Writes.eventLog hd channels).cons ((Writes.parserDef hparser).cons
        ((Writes.parse "TimeGenerated" [t.base ++ ".timestamp_parser"] true).cons
          (Writes.mapValues "EventType" severityKey eventSeverities)))).congr fun ht => ?_
      rw [List.forall_mem_append]
      refine and_iff_left (List.forall_mem_append.mpr ⟨?_, List.forall_mem_append.mpr ⟨?_, ?_⟩⟩)
      · show ∀ text ∈ [eventTimeRegex, "timestamp", "%Y-%m-%d %H:%M:%S %z"], OneLine text
        decide
      · simp +decide [ht.base]
      · decide
  | configured (.app _ _) => simp [sections?] at h
  | tail s rules =>
      obtain rfl := Option.some.inj h
      exact s.writes hd rules

end LogReceiver

/-! ## Instances -/

/-- The tag of two ids that are one line is one line in all its uses. -/
theorem Tag.clean_forInstance {pipeline receiver : String} (hp : OneLine pipeline)
    (hr : OneLine receiver) (dynamic : Bool) :
    (Tag.forInstance pipeline receiver dynamic).Clean := by
  have hbase : OneLine (pipeline ++ "." ++ receiver) := by
    simp +decide [hp, hr]
  have hsegment : ∀ id, OneLine id → OneLine (segment id) := by
    intro id hid
    refine oneLine_mapChars ?_ hid
    intro c hc
    split at hc
    · exact absurd hc (by decide)
    · exact hc
  cases dynamic with
  | false => exact ⟨hbase, hbase, hbase⟩
  | true =>
      have hhead : OneLine (dynamicHead pipeline receiver) := by
        simp +decide [dynamicHead, hsegment _ hp, hsegment _ hr, oneLine_contentHash]
      exact ⟨hbase, (oneLine_append _ _).mpr ⟨hhead, by decide⟩,
        (oneLine_append _ _).mpr ⟨hhead, by decide⟩⟩

namespace LogInstance

/-- The texts of the components of an instance. -/
def componentTexts (i : LogInstance) : List String :=
  i.receiver.texts ++ i.processors.flatMap (·.processor.texts)

/-- The texts of an instance on a platform. -/
def texts (i : LogInstance) (p : Platform) : List String :=
  i.pipeline :: i.receiverId :: p.hostname :: i.componentTexts

theorem tag_dynamic (i : LogInstance) : i.tag.dynamic = i.receiver.hasDynamicTag := by
  rw [tag]
  cases i.receiver.hasDynamicTag <;> rfl

/-- The identity filter writes the two ids and the host. -/
theorem identity_writes (i : LogInstance) (p : Platform) :
    Writes t [Filter.identity t.routing i.pipeline i.receiverId p.hostname]
      [i.receiverId, i.pipeline, p.hostname] := by
  refine (Writes.modify _).congr fun _ => ?_
  simp +decide [Filter.ModifyOp.texts]

/-- What processors write, one behind the other. -/
theorem processors_write {i : LogInstance} {xs : List (Binding × Nat)}
    {parts : List (List Section)}
    (h : List.Forall₂ (fun x part => x.1.processor.sections? i.tag (i.uid x.2) = some part)
      xs parts) :
    Writes i.tag parts.flatten ((xs.map (·.1)).flatMap (·.processor.texts)) := by
  induction h with
  | nil => exact Writes.nil
  | @cons x part xs parts hown _ ih =>
      have hu : i.tag.Clean → OneLine (i.uid x.2) := by
        intro ht
        simp +decide [uid, ht.base, oneLine_decimal]
      exact (LogProcessor.writes hu hown).append ih

/-- **What an instance writes.** -/
theorem writes {i : LogInstance} {p : Platform} (h : i.sections p = .ok ss) :
    Writes i.tag ss (i.componentTexts ++ [i.receiverId, i.pipeline, p.hostname]) := by
  obtain ⟨receiver, parts, hreceiver, hparts, rfl⟩ := sections_eq_ok.mp h
  have hprocessors := processors_write hparts
  rw [List.zipIdx_map_fst] at hprocessors
  have hclosing : Writes i.tag (i.closingSections i.tag p)
      [i.receiverId, i.pipeline, p.hostname] := by
    refine Writes.cons (b := []) (i.identity_writes p) ?_
    split
    · exact Writes.scriptFilter "add_log_name" (by decide) _
    · exact Writes.nil
  exact ((LogReceiver.writes i.tag_dynamic hreceiver).append hprocessors).append hclosing

/-- The identity filter is among the sections of an instance. -/
theorem identity_mem {i : LogInstance} {p : Platform} (h : i.sections p = .ok ss) :
    Filter.identity i.tag.routing i.pipeline i.receiverId p.hostname ∈ ss := by
  obtain ⟨receiver, parts, -, -, rfl⟩ := sections_eq_ok.mp h
  exact List.mem_append_right _ List.mem_cons_self

/-- **The sections of an instance are one line each** exactly if all its texts are. -/
theorem oneLined_iff {i : LogInstance} {p : Platform} (h : i.sections p = .ok ss) :
    (∀ s ∈ ss, s.kind ≠ .file → s.OneLined) ↔ ∀ text ∈ i.texts p, OneLine text := by
  have htexts : (∀ text ∈ i.componentTexts ++ [i.receiverId, i.pipeline, p.hostname],
      OneLine text) ↔ ∀ text ∈ i.texts p, OneLine text := by
    have hperm : (i.componentTexts ++ [i.receiverId, i.pipeline, p.hostname]).Perm (i.texts p) :=
      List.perm_append_comm.trans (.swap _ _ _)
    exact ⟨fun h text ht => h text (hperm.mem_iff.mpr ht),
      fun h text ht => h text (hperm.mem_iff.mp ht)⟩
  rw [← htexts]
  constructor
  · intro hss
    -- the identity filter has both ids, so that the tag is one line
    have hline := hss _ (identity_mem h) (by simp [Filter.identity, Filter.modify, Filter.named])
    have hidentity := (Section.oneLined_pushAll _ _).mp hline
    obtain ⟨⟨-, hr⟩, ⟨-, hp⟩, -⟩ : (_ ∧ OneLine i.receiverId) ∧ (_ ∧ OneLine i.pipeline) ∧ _ := by
      simpa [Filter.ModifyOp.oneLine_entry, Filter.ModifyOp.texts] using hidentity.2
    exact ((writes h).oneLined_iff (Tag.clean_forInstance hp hr _)).mp hss
  · intro htext
    have hp : OneLine i.pipeline := htext _ (by simp)
    have hr : OneLine i.receiverId := htext _ (by simp)
    exact ((writes h).oneLined_iff (Tag.clean_forInstance hp hr _)).mpr htext

end LogInstance

end Telemetry
