import Telemetry.Proofs.CollectorRun
import Telemetry.Proofs.Dollars

/-!
# Variables in the document of the collector

Texts come into the document from many places: ids become parts of names, settings of receivers are
taken over as they are, processors make statements and expressions of what they are given. The
collector expands variables in all of them alike.

* **`Tree.scalars`** — the texts of a document; **`Tree.Paired`** — their dollar signs come in
  pairs.
* **`paired_document`** — a document is made of the components of its pipelines and their names.
* **`compile_dollars_iff`** — the dollar signs of a document come in pairs exactly if those of the
  texts that go into it do, and no metric is excluded but by patterns that end in one.
* **`compile_openDollar`** — the expressions for excluded metrics end in a dollar sign that is not
  doubled.
-/

namespace Telemetry

open Failing

/-! ## Texts of a tree -/

namespace Tree

mutual

/-- The texts of a tree, among them the keys of its tables. -/
def scalars : Tree → List String
  | text s => [s]
  | list items => itemScalars items
  | sorted entries => entryScalars entries
  | _ => []

/-- The texts of the items of a list. -/
def itemScalars : List Tree → List String
  | [] => []
  | t :: ts => t.scalars ++ itemScalars ts

/-- The keys of a table, each with the texts behind it. -/
def entryScalars : List (String × Tree) → List String
  | [] => []
  | (k, t) :: es => k :: (t.scalars ++ entryScalars es)

end

theorem mem_itemScalars {s : String} {ts : List Tree} :
    s ∈ itemScalars ts ↔ ∃ t ∈ ts, s ∈ t.scalars := by
  induction ts with
  | nil => simp [itemScalars]
  | cons t ts ih => rw [itemScalars, List.mem_append, ih, List.exists_mem_cons_iff]

theorem mem_entryScalars {s : String} {es : List (String × Tree)} :
    s ∈ entryScalars es ↔ ∃ e ∈ es, s = e.1 ∨ s ∈ e.2.scalars := by
  induction es with
  | nil => simp [entryScalars]
  | cons e es ih =>
      rw [entryScalars, List.mem_cons, List.mem_append, ih, List.exists_mem_cons_iff, or_assoc]

/-- The dollar signs of all texts of a tree come in pairs. -/
def Paired (t : Tree) : Prop :=
  ∀ s ∈ t.scalars, Telemetry.Paired s

instance : DecidablePred Paired :=
  fun _ => inferInstanceAs (Decidable (∀ s ∈ _, Telemetry.Paired s))

@[simp] theorem paired_text {s : String} : (text s).Paired ↔ Telemetry.Paired s := by
  simp [Paired, scalars]

@[simp] theorem paired_bool {b : Bool} : (bool b).Paired := by
  simp [Paired, scalars]

@[simp] theorem paired_int {n : Int} : (int n).Paired := by
  simp [Paired, scalars]

@[simp] theorem paired_list {ts : List Tree} : (list ts).Paired ↔ ∀ t ∈ ts, t.Paired := by
  simp only [Paired, scalars, mem_itemScalars]
  constructor
  · intro h t ht s hs
    exact h s ⟨t, ht, hs⟩
  · rintro h s ⟨t, ht, hs⟩
    exact h t ht s hs

@[simp] theorem paired_texts {xs : List String} :
    (texts xs).Paired ↔ ∀ x ∈ xs, Telemetry.Paired x := by
  simp [texts]

/-- **A table in which no key has two values.** -/
theorem paired_table {es : List (String × Tree)}
    (hone : ∀ k t t', (k, t) ∈ es → (k, t') ∈ es → t' = t) :
    (table es).Paired ↔ ∀ e ∈ es, Telemetry.Paired e.1 ∧ e.2.Paired := by
  have hmem : ∀ e, e ∈ (Keyed.ofList es).entries ↔ e ∈ es := by
    rintro ⟨k, t⟩
    rw [Keyed.mem_entries_iff]
    exact ⟨Keyed.mem_of_get?_ofList, fun h => Keyed.get?_ofList h fun t' h' => hone k t t' h h'⟩
  have hscalars : ∀ s, s ∈ (table es).scalars ↔ ∃ e ∈ es, s = e.1 ∨ s ∈ e.2.scalars := by
    intro s
    rw [table, scalars, mem_entryScalars]
    simp only [hmem]
  constructor
  · intro h e he
    exact ⟨h _ ((hscalars _).mpr ⟨e, he, .inl rfl⟩),
      fun s hs => h s ((hscalars s).mpr ⟨e, he, .inr hs⟩)⟩
  · intro h s hs
    obtain ⟨e, he, rfl | hs⟩ := (hscalars s).mp hs
    · exact (h e he).1
    · exact (h e he).2 s hs

/-- A table whose keys are written out. -/
theorem paired_table_of_nodup {es : List (String × Tree)} (hn : (es.map (·.1)).Nodup) :
    (table es).Paired ↔ ∀ e ∈ es, Telemetry.Paired e.1 ∧ e.2.Paired := by
  refine paired_table ?_
  intro k t t' h h'
  exact (Prod.mk.inj (List.inj_on_of_nodup_map hn h' h rfl)).2

end Tree

/-! ## Components -/

namespace Node

theorem paired_transform (statements : List String) :
    (transform "log" "log" statements).config.Paired ↔ ∀ s ∈ statements, Paired s := by
  have hkeys : Paired "error_mode" ∧ Paired "ignore" ∧ Paired "log_statements" ∧
      Paired "context" ∧ Paired "log" ∧ Paired "statements" := by
    and_intros <;> exact paired_of_eq rfl rfl
  rw [transform, show "log" ++ "_statements" = "log_statements" from rfl,
    Tree.paired_table_of_nodup (by simp)]
  simp [hkeys, Tree.paired_table_of_nodup]

theorem paired_metricsFilter {polarity matchType : String} (hpolarity : Paired polarity)
    (htype : Paired matchType) (names : List String) :
    (metricsFilter polarity matchType names).config.Paired ↔ ∀ s ∈ names, Paired s := by
  have hkeys : Paired "metrics" ∧ Paired "match_type" ∧ Paired "metric_names" := by
    and_intros <;> exact paired_of_eq rfl rfl
  rw [metricsFilter, Tree.paired_table_of_nodup (by simp)]
  simp [hkeys, hpolarity, htype, Tree.paired_table_of_nodup]

theorem paired_renameMetrics (renames : List (String × String)) :
    (renameMetrics renames).config.Paired ↔ ∀ r ∈ renames, Paired r.1 ∧ Paired r.2 := by
  have hkeys : Paired "transforms" ∧ Paired "include" ∧ Paired "action" ∧ Paired "update" ∧
      Paired "new_name" := by
    and_intros <;> exact paired_of_eq rfl rfl
  have hone : ∀ old new, (Tree.table [("include", .text old), ("action", .text "update"),
      ("new_name", .text new)]).Paired ↔ Paired old ∧ Paired new := by
    intro old new
    rw [Tree.paired_table_of_nodup (by simp)]
    simp [hkeys]
  rw [renameMetrics, Tree.paired_table_of_nodup (by simp), List.forall_mem_singleton]
  simp only [Tree.paired_list, List.forall_mem_map, hone, hkeys, true_and]

/-- The expression and the new name double their own dollar signs. -/
theorem paired_addDomain {domain : String} (h : Paired (domain ++ "/$$\x7b1\x7d")) :
    (addDomain domain).config.Paired := by
  have hkeys : Paired "transforms" ∧ Paired "include" ∧ Paired "^(.*)$$" ∧ Paired "match_type" ∧
      Paired "regexp" ∧ Paired "action" ∧ Paired "update" ∧ Paired "new_name" := by
    and_intros <;> exact paired_of_eq rfl rfl
  rw [addDomain, Tree.paired_table_of_nodup (by simp)]
  simp [hkeys, h, Tree.paired_table_of_nodup]

/-- The name of an instance with a suffix. -/
theorem paired_instanceName {n : Node} (h : Paired n.typeName) {suffix : String}
    (hne : suffix ≠ "") : Paired (n.instanceName suffix) ↔ Paired suffix := by
  rw [instanceName, if_neg hne, paired_append_append (by decide) (by decide), and_iff_right h]

end Node

/-- The texts of a receiver of files. -/
def FileSource.collectorTexts (s : FileSource) : List String :=
  s.includePaths ++ s.excludePaths ++ s.refreshInterval.toList

theorem FileSource.paired_nodeConfig (s : FileSource) :
    s.nodeConfig.Paired ↔ ∀ t ∈ s.collectorTexts, Paired t := by
  obtain ⟨included, excluded, refresh, path, memory⟩ := s
  have hkeys : Paired "include" ∧ Paired "exclude" ∧ Paired "start_at" ∧ Paired "beginning" ∧
      Paired "include_file_name" ∧ Paired "preserve_leading_whitespaces" ∧
      Paired "preserve_trailing_whitespaces" ∧ Paired "operators" ∧ Paired "poll_interval" ∧
      Paired "include_file_path" := by
    and_intros <;> exact paired_of_eq rfl rfl
  have hmove : moveBody.Paired ∧ movePath.Paired := by
    have hwords : Paired "id" ∧ Paired "body" ∧ Paired "type" ∧ Paired "move" ∧ Paired "from" ∧
        Paired "to" ∧ Paired "body.message" ∧ Paired "record_log_file_path" ∧
        Paired "attributes[\"log.file.path\"]" := by
      and_intros <;> exact paired_of_eq rfl rfl
    have hpath : Paired ("attributes[\"" ++ filePathKey ++ "\"]") := by
      rw [paired_append_append (by decide) (by decide)]
      exact ⟨paired_of_eq rfl rfl, paired_of_eq rfl rfl⟩
    rw [moveBody, movePath, Tree.paired_table_of_nodup (by simp),
      Tree.paired_table_of_nodup (by simp)]
    simp [hwords, hpath]
  cases refresh <;> cases path
  all_goals
    rw [nodeConfig, Tree.paired_table_of_nodup (by simp)]
    simp [collectorTexts, hkeys, hmove, or_imp, forall_and]

namespace LogReceiver

/-- The texts that a receiver brings into the document. -/
def collectorTexts : LogReceiver → List String
  | configured (.files s) => s.collectorTexts
  | tail s _ => s.collectorTexts
  | _ => []

theorem paired_pipelines? {r : LogReceiver} {rps : List ReceiverPipeline}
    (h : r.pipelines? = some rps) :
    (∀ rp ∈ rps, rp.receiver.config.Paired) ↔ ∀ t ∈ r.collectorTexts, Paired t := by
  unfold pipelines? at h
  split at h
  · obtain rfl := Option.some.inj h
    rw [List.forall_mem_singleton]
    exact FileSource.paired_nodeConfig _
  · obtain rfl := Option.some.inj h
    rw [List.forall_mem_singleton]
    exact FileSource.paired_nodeConfig _
  · exact nomatch h

end LogReceiver

namespace LogProcessor

/-- The texts that a processor brings into the document. -/
def collectorTexts : LogProcessor → List String
  | configured (.parseJson p) => p.bodyField :: Statement.timeTexts p.timeKey p.timeFormat
  | configured (.parseRegex p) =>
    p.bodyField :: p.regex :: Statement.timeTexts p.timeKey p.timeFormat
  | _ => []

theorem paired_nodes? {p : LogProcessor} {nodes : List Node} (h : p.nodes? = some nodes) :
    (∀ n ∈ nodes, n.config.Paired) ↔ ∀ t ∈ p.collectorTexts, Paired t := by
  unfold nodes? at h
  split at h
  · obtain rfl := Option.some.inj h
    rw [List.forall_mem_singleton, Node.paired_transform, ParseJson.paired_statements,
      collectorTexts, List.forall_mem_cons]
  · obtain rfl := Option.some.inj h
    rw [List.forall_mem_singleton, Node.paired_transform, ParseRegex.paired_statements,
      collectorTexts, List.forall_mem_cons, List.forall_mem_cons]
  · cases h

end LogProcessor

namespace MetricsReceiver

/-- The texts that a receiver brings into the document. -/
def texts : MetricsReceiver → List String
  | hostmetrics interval => interval.toList
  | nginx interval url => interval.toList ++ url.toList
  | otlp endpoint => endpoint.toList

theorem paired_receivers (r : MetricsReceiver) :
    (∀ rp ∈ r.pipelines, rp.receiver.config.Paired) ↔ ∀ t ∈ r.texts, Paired t := by
  have hkeys : Paired "collection_interval" ∧ Paired "scrapers" ∧ Paired "endpoint" ∧
      Paired "protocols" ∧ Paired "grpc" := by
    and_intros <;> exact paired_of_eq rfl rfl
  have hdefaults : Paired defaultIntervalText ∧ Paired "http://127.0.0.1/status" ∧
      Paired "0.0.0.0:4317" := by
    and_intros <;> exact paired_of_eq rfl rfl
  cases r with
  | hostmetrics interval =>
      have hscrapers : (Tree.table (hostScrapers.map fun s => (s, .table []))).Paired := by
        rw [hostScrapers, Tree.paired_table_of_nodup (by simp)]
        simp only [List.map_cons, List.map_nil, List.forall_mem_cons]
        and_intros <;> first | exact paired_of_eq rfl rfl | exact List.forall_mem_nil _
      have hprocess : (Tree.table [("process", .table [
          ("include", .table [("match_type", .text "strict"), ("names", .texts agentProcesses)]),
          ("mute_process_name_error", .bool true)])]).Paired := by
        have hwords : Paired "process" ∧ Paired "include" ∧ Paired "match_type" ∧
            Paired "strict" ∧ Paired "names" ∧ Paired "mute_process_name_error" ∧
            Paired "opsforge" ∧ Paired "fluent-bit" ∧ Paired "otelopscol" := by
          and_intros <;> exact paired_of_eq rfl rfl
        rw [Tree.paired_table_of_nodup (by simp)]
        simp [hwords, agentProcesses, Tree.paired_table_of_nodup]
      cases interval <;>
        simp [pipelines, texts, hostPipeline, processPipeline, hkeys, hdefaults, hscrapers,
          hprocess, Tree.paired_table_of_nodup]
  | nginx interval url =>
      cases interval <;> cases url <;>
        simp [pipelines, texts, nginxPipeline, hkeys, hdefaults, Tree.paired_table_of_nodup]
  | otlp endpoint =>
      cases endpoint <;>
        simp [pipelines, texts, otlpPipeline, hkeys, hdefaults, Tree.paired_table_of_nodup]

/-- The dollar signs of the processors that come with a receiver are all doubled. -/
theorem paired_own {r : MetricsReceiver} {rp : ReceiverPipeline} (h : rp ∈ r.pipelines) :
    ∀ n ∈ (rp.processors.get? .metrics).getD [], n.config.Paired := by
  have hfilter : ∀ polarity, Paired polarity → ∀ names, (∀ s ∈ names, Paired s) →
      (Node.metricsFilter polarity "strict" names).config.Paired := by
    intro polarity hpolarity names hnames
    exact (Node.paired_metricsFilter hpolarity (paired_of_eq rfl rfl) names).mpr hnames
  cases r with
  | hostmetrics interval =>
      have hblank : (Tree.table [("blank_label_metrics",
          .texts ["system.cpu.utilization"])]).Paired := by
        have hwords : Paired "blank_label_metrics" ∧ Paired "system.cpu.utilization" :=
          ⟨paired_of_eq rfl rfl, paired_of_eq rfl rfl⟩
        rw [Tree.paired_table_of_nodup (by simp)]
        simp [hwords]
      rcases List.mem_pair.mp h with rfl | rfl
      · refine List.forall_mem_cons.mpr ⟨hblank, List.forall_mem_cons.mpr ⟨?_,
          List.forall_mem_cons.mpr ⟨?_, List.forall_mem_singleton.mpr ?_⟩⟩⟩
        · refine hfilter _ (paired_of_eq rfl rfl) _ ?_
          simp only [excludedHostMetrics, List.forall_mem_cons]
          and_intros <;> first | exact paired_of_eq rfl rfl | exact List.forall_mem_nil _
        · refine (Node.paired_renameMetrics hostRenames).mpr ?_
          simp only [hostRenames, List.forall_mem_cons]
          and_intros <;> first | exact paired_of_eq rfl rfl | exact List.forall_mem_nil _
        · exact Node.paired_addDomain rfl
      · have hrenames : ∀ r ∈ processRenames, Paired r.1 ∧ Paired r.2 := by
          simp only [processRenames, List.forall_mem_cons]
          and_intros <;> first | exact paired_of_eq rfl rfl | exact List.forall_mem_nil _
        refine List.forall_mem_cons.mpr ⟨?_, List.forall_mem_cons.mpr ⟨?_,
          List.forall_mem_singleton.mpr ?_⟩⟩
        · exact hfilter _ (paired_of_eq rfl rfl) _
            (List.forall_mem_map.mpr fun r hr => (hrenames r hr).1)
        · exact (Node.paired_renameMetrics processRenames).mpr hrenames
        · exact Node.paired_addDomain rfl
  | nginx interval url =>
      obtain rfl := List.mem_singleton.mp h
      exact List.forall_mem_cons.mpr ⟨List.forall_mem_nil _, List.forall_mem_singleton.mpr
        (Node.paired_addDomain rfl)⟩
  | otlp endpoint =>
      obtain rfl := List.mem_singleton.mp h
      exact List.forall_mem_nil _

end MetricsReceiver

theorem ExporterType.paired_node (t : ExporterType) (p : Platform) :
    (t.node p).config.Paired ↔ Paired (p.userAgent collectorAgent) := by
  have hkeys : Paired "user_agent" ∧ Paired "metric" ∧ Paired "prefix" ∧
      Paired "skip_create_descriptor" ∧ Paired "log" ∧ Paired "default_log_name" ∧
      Paired "opsforge-collector" := by
    and_intros <;> exact paired_of_eq rfl rfl
  cases t <;> simp [node, hkeys, paired_empty, Tree.paired_table_of_nodup]

namespace CollectorGraph

/-! ## Names -/

/-- The dollar signs of the name of a service pipeline come in pairs if those of its ids do. -/
theorem paired_of_mem_pipelineNames {pipeline receiver : String} {count : Nat} {name : String}
    (h : name ∈ pipelineNames pipeline receiver count) :
    Paired name ↔ Paired pipeline ∧ Paired receiver := by
  have hstem : Paired (pipeline ++ "_" ++ receiver) ↔ Paired pipeline ∧ Paired receiver :=
    paired_append_append (by decide) (by decide)
  rw [pipelineNames] at h
  split at h
  · rw [List.mem_singleton.mp h, hstem]
  · obtain ⟨k, -, rfl⟩ := List.mem_map.mp h
    rw [paired_append_append (by decide) (by decide), hstem]
    exact and_iff_left (paired_of_notMem (Text.notMem_decimal rfl k))

theorem paired_identityNode (i : LogInstance) :
    (identityNode i).config.Paired ↔ Paired i.receiverId ∧ Paired i.pipeline := by
  have hset : ∀ name value, Paired name → (Paired (setAttribute name value) ↔ Paired value) := by
    intro name value hname
    simp (disch := decide) only [setAttribute, paired_append_append, paired_append_left,
      paired_append_right, Statement.paired_attributeRef, Statement.paired_quote, hname, true_and]
  rw [identityNode, Node.paired_transform, List.forall_mem_cons, List.forall_mem_singleton,
    hset logNameAttribute _ (paired_of_eq rfl rfl), hset pipelineAttribute _ (paired_of_eq rfl rfl)]

/-! ## Documents -/

variable {c : Config} {p : Platform} {o : CompileOptions} {ms : List MetricsInstance}
  {ls : List LogInstance} {rss : List (List PipelineRequest)} {rs : List PipelineRequest}

/-- The dollar signs of a component's name and of its settings come in pairs. -/
def PairedComponent (component : String × Node) : Prop :=
  Paired component.1 ∧ component.2.config.Paired

/-- The dollar signs of a pipeline and its components come in pairs. -/
structure PairedPipeline (n : Graph.NamedPipeline) : Prop where
  name : Paired n.name
  receiver : PairedComponent n.receiver
  processors : ∀ component ∈ n.processors, PairedComponent component
  exporter : PairedComponent n.exporter

/-- A table of components in which no name stands for two. -/
theorem paired_componentTable {components : List (String × Node)}
    (hone : ∀ name n n', (name, n) ∈ components → (name, n') ∈ components → n' = n) :
    (Graph.componentTable components).Paired ↔ ∀ x ∈ components, PairedComponent x := by
  rw [Graph.componentTable, Tree.paired_table, List.forall_mem_map]
  · rfl
  · intro name t t' h h'
    obtain ⟨⟨_, n⟩, hn, he⟩ := List.mem_map.mp h
    obtain ⟨⟨_, n'⟩, hn', he'⟩ := List.mem_map.mp h'
    obtain ⟨rfl, rfl⟩ := Prod.mk.inj he
    obtain ⟨rfl, rfl⟩ := Prod.mk.inj he'
    rw [hone _ n n' hn hn']

/-- The entry of a pipeline repeats names of components. -/
theorem paired_toTree (n : Graph.NamedPipeline) : n.toTree.Paired ↔
    Paired n.receiver.1 ∧ (∀ component ∈ n.processors, Paired component.1) ∧
      Paired n.exporter.1 := by
  have hkeys : Paired "receivers" ∧ Paired "processors" ∧ Paired "exporters" := by
    and_intros <;> exact paired_of_eq rfl rfl
  rw [Graph.NamedPipeline.toTree, Tree.paired_table_of_nodup (by simp)]
  simp [hkeys]

/-- What the collector tells about itself has one text from the configuration, if any. -/
theorem paired_telemetry (parts : Parts) : (ofParts c p o parts).telemetry.Paired ↔
    Paired (c.collectorLogLevel o.defaultLogLevel) := by
  have hkeys : Paired "metrics" ∧ Paired "readers" ∧ Paired "pull" ∧ Paired "exporter" ∧
      Paired "prometheus" ∧ Paired "host" ∧ Paired "0.0.0.0" ∧ Paired "port" ∧
      Paired "without_scope_info" ∧ Paired "without_type_suffix" ∧ Paired "without_units" ∧
      Paired "logs" ∧ Paired "level" ∧ Paired "info" := by
    and_intros <;> exact paired_of_eq rfl rfl
  by_cases hlevel : c.collectorLogLevel o.defaultLogLevel = "" ∨
      c.collectorLogLevel o.defaultLogLevel = "info"
  · have hpaired : Paired (c.collectorLogLevel o.defaultLogLevel) := by
      rcases hlevel with hlevel | hlevel
      · exact hlevel ▸ paired_empty
      · exact hlevel ▸ paired_of_eq rfl rfl
    refine iff_of_true ?_ hpaired
    simp [Graph.telemetry, ofParts, hlevel, hkeys, Tree.paired_table_of_nodup]
  · simp [Graph.telemetry, ofParts, hlevel, hkeys, Tree.paired_table_of_nodup]

namespace LaidOut

variable {ns : List Graph.NamedPipeline} {doc : Tree}

/-- What holds of all pipelines holds of what becomes of the requests. -/
theorem forall_iff (h : LaidOut p rs ns doc) {P : Graph.NamedPipeline → Prop} :
    (∀ n ∈ ns, P n) ↔ ∀ r ∈ rs, P (namedFor p r) := by
  constructor
  · intro hall r hr
    exact hall _ (h.mem hr)
  · intro hall n hn
    obtain ⟨r, hr, rfl⟩ := h.mem_iff.mp hn
    exact hall r hr

theorem paired_receivers (h : LaidOut p rs ns doc) (hs : ∀ r ∈ rs, r.Sound)
    (hn : (rs.map (·.name)).Nodup) : (Graph.componentTable (ns.map (·.receiver))).Paired ↔
      ∀ r ∈ rs, PairedComponent (namedFor p r).receiver := by
  rw [paired_componentTable, List.forall_mem_map, h.forall_iff]
  intro name n n' hm hm'
  obtain ⟨_, hm, he⟩ := List.mem_map.mp hm
  obtain ⟨_, hm', he'⟩ := List.mem_map.mp hm'
  obtain ⟨r, hr, rfl⟩ := h.mem_iff.mp hm
  obtain ⟨r', hr', rfl⟩ := h.mem_iff.mp hm'
  -- the name of a receiver has that of its request in it
  obtain ⟨rfl, rfl⟩ := Prod.mk.inj he
  obtain ⟨hname, rfl⟩ := Prod.mk.inj he'
  rw [List.inj_on_of_nodup_map hn hr' hr ((hs r' hr').name_eq_of_receiverName (hs r hr) hname)]

theorem paired_processors (h : LaidOut p rs ns doc) (hs : ∀ r ∈ rs, r.Sound)
    (hn : (rs.map (·.name)).Nodup) : (Graph.componentTable (ns.flatMap (·.processors))).Paired ↔
      ∀ r ∈ rs, ∀ x ∈ (namedFor p r).processors, PairedComponent x := by
  rw [paired_componentTable, List.forall_mem_flatMap,
    h.forall_iff (P := fun n => ∀ x ∈ n.processors, PairedComponent x)]
  intro name n n' hm hm'
  obtain ⟨_, hm, hx⟩ := List.mem_flatMap.mp hm
  obtain ⟨_, hm', hx'⟩ := List.mem_flatMap.mp hm'
  obtain ⟨r, hr, rfl⟩ := h.mem_iff.mp hm
  obtain ⟨r', hr', rfl⟩ := h.mem_iff.mp hm'
  exact processor_inj hs hn hr' hr hx' hx

theorem paired_exporters (h : LaidOut p rs ns doc) :
    (Graph.componentTable ((Graph.firstUses ns).map (·.exporter))).Paired ↔
      ∀ r ∈ rs, PairedComponent (namedFor p r).exporter := by
  rw [paired_componentTable]
  · constructor
    · intro hall r hr
      exact hall _ (h.exporter_iff.mpr ⟨r, hr, rfl, rfl⟩)
    · rintro hall ⟨name, n⟩ hx
      obtain ⟨r, hr, rfl, rfl⟩ := h.exporter_iff.mp hx
      exact hall r hr
  · intro name n n' hm hm'
    obtain ⟨r, -, rfl, rfl⟩ := h.exporter_iff.mp hm
    obtain ⟨r', -, hname, rfl⟩ := h.exporter_iff.mp hm'
    rw [exporterName_injective hname]

theorem paired_pipelines (h : LaidOut p rs ns doc) (hn : (rs.map (·.name)).Nodup) :
    (Tree.table (ns.map fun n => (n.name, n.toTree))).Paired ↔
      ∀ r ∈ rs, Paired (namedFor p r).name ∧ (namedFor p r).toTree.Paired := by
  rw [Tree.paired_table_of_nodup (h.keys_nodup hn), List.forall_mem_map, h.forall_iff]

end LaidOut

/-- **What is in a document:** the pipelines of the requests with their components, and the level of
the collector's own log. -/
theorem paired_document {parts : Parts} (h : parts.Hold rs) (hs : ∀ r ∈ rs, r.Sound) :
    ∃ doc, (ofParts c p o parts).document = .ok doc ∧
      (doc.Paired ↔ Paired (c.collectorLogLevel o.defaultLogLevel) ∧
        ∀ r ∈ rs, PairedPipeline (namedFor p r)) := by
  obtain ⟨ns, hns, hperm⟩ := namedPipelines_eq (c := c) (p := p) (o := o) h hs
  have hlaid := laidOut_of_perm hperm (ofParts c p o parts).telemetry
  have hkeys : Paired "receivers" ∧ Paired "processors" ∧ Paired "exporters" ∧ Paired "service" ∧
      Paired "pipelines" ∧ Paired "telemetry" := by
    and_intros <;> exact paired_of_eq rfl rfl
  refine ⟨_, bind_eq_ok.mpr ⟨ns, hns, rfl⟩, ?_⟩
  rw [Tree.paired_table_of_nodup (by simp)]
  simp only [List.forall_mem_cons, List.not_mem_nil, false_implies, implies_true, and_true,
    true_and, hkeys, hlaid.paired_receivers hs h.distinct, hlaid.paired_processors hs h.distinct,
    hlaid.paired_exporters]
  rw [Tree.paired_table_of_nodup (by simp)]
  simp only [List.forall_mem_cons, List.not_mem_nil, false_implies, implies_true, and_true,
    true_and, hkeys, hlaid.paired_pipelines h.distinct, paired_telemetry, paired_toTree]
  constructor
  · rintro ⟨hreceivers, hprocessors, hexporters, hpipelines, hlevel⟩
    exact ⟨hlevel, fun r hr => ⟨(hpipelines r hr).1, hreceivers r hr, hprocessors r hr,
      hexporters r hr⟩⟩
  · rintro ⟨hlevel, hall⟩
    refine ⟨fun r hr => (hall r hr).receiver, fun r hr => (hall r hr).processors,
      fun r hr => (hall r hr).exporter, fun r hr => ⟨(hall r hr).name, (hall r hr).receiver.1,
        fun x hx => ((hall r hr).processors x hx).1, (hall r hr).exporter.1⟩, hlevel⟩

/-! ## Requests -/

/-- The processors of a request have its name in theirs. -/
theorem paired_namedNodes {r : PipelineRequest} (hs : r.Sound) (hname : Paired r.name) :
    (∀ x ∈ r.namedNodes, PairedComponent x) ↔ ∀ n ∈ r.nodes, n.config.Paired := by
  constructor
  · intro hall n hn
    obtain ⟨k, hk⟩ := List.mem_iff_getElem?.mp hn
    exact (hall _ (Graph.mem_numbered.mpr ⟨k, hk, rfl⟩)).2
  · rintro hall ⟨name, n⟩ hx
    obtain ⟨k, hk, rfl⟩ := Graph.mem_numbered.mp hx
    have hn : n ∈ r.nodes := List.mem_of_getElem? hk
    have htypes : ∀ t ∈ PipelineRequest.processorTypes, Paired t := by
      simp only [PipelineRequest.processorTypes, List.forall_mem_cons]
      and_intros <;> first | exact paired_of_eq rfl rfl | exact List.forall_mem_nil _
    refine ⟨?_, hall n hn⟩
    rw [Node.paired_instanceName (htypes _ (hs.processorType n hn))
      (Graph.numberedSuffix_ne_empty _ _), paired_append_append (by decide) (by decide)]
    exact ⟨hname, paired_of_notMem (Text.notMem_decimal rfl _)⟩

/-- **What a request brings into the document:** its name, its components, and how its exporter
names the collector. -/
theorem pairedPipeline_iff {r : PipelineRequest} (hs : r.Sound) :
    PairedPipeline (namedFor p r) ↔ Paired r.name ∧ r.receiver.receiver.config.Paired ∧
      (∀ n ∈ r.nodes, n.config.Paired) ∧ Paired (p.userAgent collectorAgent) := by
  have htypes : ∀ t ∈ PipelineRequest.receiverTypes, Paired t := by
    simp only [PipelineRequest.receiverTypes, List.forall_mem_cons]
    and_intros <;> first | exact paired_of_eq rfl rfl | exact List.forall_mem_nil _
  have hkey : Paired r.key ↔ Paired r.name := by
    rw [PipelineRequest.key, paired_append_append (by decide) (by decide)]
    exact and_iff_right (by cases r.signal <;> decide)
  have hreceiver : Paired r.receiverName ↔ Paired r.name :=
    Node.paired_instanceName (htypes _ hs.receiverType) hs.named
  have hdetector : ∀ x ∈ (Graph.detector? r.mode).toList, PairedComponent x := by
    cases r.mode
    · exact List.forall_mem_singleton.mpr ⟨by decide, by decide⟩
    · exact List.forall_mem_singleton.mpr ⟨by decide, by decide⟩
    · exact List.forall_mem_nil _
  -- exporters have one of a few names
  have hexporter : Paired (exporterName p r.target) := by
    have hall : ∀ name ∈ exporterNames p, Paired name := by
      rw [exporterNames_eq]
      decide
    refine hall _ (List.mem_map.mpr ⟨_, ?_, rfl⟩)
    cases r.target <;> decide
  constructor
  · intro h
    have hname := hkey.mp h.name
    exact ⟨hname, h.receiver.2, (paired_namedNodes hs hname).mp fun x hx =>
      h.processors x (List.mem_append_left _ hx), (ExporterType.paired_node _ _).mp h.exporter.2⟩
  · rintro ⟨hname, hconfig, hnodes, hagent⟩
    refine ⟨hkey.mpr hname, ⟨hreceiver.mpr hname, hconfig⟩, ?_,
      ⟨hexporter, (ExporterType.paired_node _ _).mpr hagent⟩⟩
    exact List.forall_mem_append.mpr ⟨(paired_namedNodes hs hname).mpr hnodes, hdetector⟩

/-- The requests of an instance differ in their receiver pipelines only. -/
theorem pairedPipelines_iff {requests : List PipelineRequest} (hs : ∀ r ∈ requests, r.Sound)
    (hne : requests ≠ []) {ids nodes : Prop} (hids : ∀ r ∈ requests, (Paired r.name ↔ ids))
    (hnodes : ∀ r ∈ requests, ((∀ n ∈ r.nodes, n.config.Paired) ↔ nodes)) :
    (∀ r ∈ requests, PairedPipeline (namedFor p r)) ↔ Paired (p.userAgent collectorAgent) ∧ ids ∧
      (∀ rp ∈ requests.map (·.receiver), rp.receiver.config.Paired) ∧ nodes := by
  rw [List.forall_mem_map]
  constructor
  · intro hall
    -- any request shows what they have in common
    obtain ⟨r, hr⟩ := List.exists_mem_of_ne_nil _ hne
    obtain ⟨hname, -, hn, hagent⟩ := (pairedPipeline_iff (hs r hr)).mp (hall r hr)
    exact ⟨hagent, (hids r hr).mp hname, fun r hr => (hall r hr).receiver.2, (hnodes r hr).mp hn⟩
  · rintro ⟨hagent, hname, hconfig, hn⟩ r hr
    exact (pairedPipeline_iff (hs r hr)).mpr
      ⟨(hids r hr).mpr hname, hconfig r hr, (hnodes r hr).mpr hn, hagent⟩

end CollectorGraph

/-! ## Instances -/

/-- The patterns for excluded metrics. -/
def MetricsInstance.patterns (i : MetricsInstance) : List String :=
  i.processors.flatMap fun (_, .excludeMetrics patterns) => patterns

/-- The texts that an instance brings into the document, but for those that are made of patterns. -/
def MetricsInstance.collectorTexts (p : Platform) (i : MetricsInstance) : List String :=
  p.userAgent collectorAgent :: i.pipeline :: i.receiverId :: i.receiver.texts

/-- The texts that an instance brings into the document. -/
def LogInstance.collectorTexts (p : Platform) (i : LogInstance) : List String :=
  p.userAgent collectorAgent :: i.pipeline :: i.receiverId :: (i.expand.receiver.collectorTexts
    ++ i.expand.processors.flatMap (·.processor.collectorTexts))

namespace CollectorGraph

variable {c : Config} {p : Platform} {o : CompileOptions} {ms : List MetricsInstance}
  {ls : List LogInstance} {rss : List (List PipelineRequest)}

/-- The processors of a metrics instance are filters. -/
theorem paired_metricsNodes (i : MetricsInstance) :
    (∀ n ∈ i.processors.flatMap (·.2.nodes), n.config.Paired) ↔
      ∀ pattern ∈ i.patterns, Paired (Pattern.ofGlob pattern) := by
  rw [MetricsInstance.patterns, List.forall_mem_flatMap, List.forall_mem_flatMap]
  refine forall₂_congr ?_
  rintro ⟨id, patterns⟩ -
  rw [MetricsProcessor.nodes, List.forall_mem_singleton,
    Node.paired_metricsFilter (paired_of_eq rfl rfl) (paired_of_eq rfl rfl),
    MetricsProcessor.regexes, List.forall_mem_map]

/-- **What a metrics instance brings into the document.** -/
theorem pairedMetrics_iff (i : MetricsInstance) :
    (∀ r ∈ metricsRequests i, PairedPipeline (namedFor p r)) ↔
      (∀ t ∈ i.collectorTexts p, Paired t) ∧
        ∀ pattern ∈ i.patterns, Paired (Pattern.ofGlob pattern) := by
  have hne : metricsRequests i ≠ [] := by
    intro hnil
    have hreceivers := receiver_metricsRequests i
    rw [hnil] at hreceivers
    exact pipelines_ne_nil i.receiver hreceivers.symm
  have hids : ∀ r ∈ metricsRequests i,
      (Paired r.name ↔ Paired i.pipeline ∧ Paired i.receiverId) := by
    intro r hr
    obtain ⟨⟨name, rp⟩, hz, rfl⟩ := List.mem_map.mp hr
    exact paired_of_mem_pipelineNames (List.of_mem_zip hz).1
  have hnodes : ∀ r ∈ metricsRequests i, ((∀ n ∈ r.nodes, n.config.Paired) ↔
      ∀ pattern ∈ i.patterns, Paired (Pattern.ofGlob pattern)) := by
    intro r hr
    obtain ⟨⟨name, rp⟩, hz, rfl⟩ := List.mem_map.mp hr
    have hown := MetricsReceiver.paired_own (List.of_mem_zip hz).2
    rw [PipelineRequest.nodes, List.forall_mem_append, ← paired_metricsNodes]
    exact and_iff_right hown
  rw [pairedPipelines_iff (fun r => sound_of_metricsRequests) hne hids hnodes,
    receiver_metricsRequests, MetricsReceiver.paired_receivers, MetricsInstance.collectorTexts]
  simp only [List.forall_mem_cons, and_assoc]

/-- The components of processors have the texts of these in them. -/
theorem paired_logNodes {bs : List Binding} {nodes : List (List Node)}
    (h : List.Forall₂ (fun b ns => b.processor.nodes? = some ns) bs nodes) :
    (∀ n ∈ nodes.flatten, n.config.Paired) ↔
      ∀ t ∈ bs.flatMap (·.processor.collectorTexts), Paired t := by
  induction h with
  | nil => exact iff_of_true (List.forall_mem_nil _) (List.forall_mem_nil _)
  | cons hb _ ih =>
      rw [List.flatten_cons, List.flatMap_cons, List.forall_mem_append, List.forall_mem_append, ih,
        LogProcessor.paired_nodes? hb]

/-- **What a logging instance brings into the document.** -/
theorem pairedLogs_iff {i : LogInstance} {rs : List PipelineRequest} (h : logRequests i = .ok rs) :
    (∀ r ∈ rs, PairedPipeline (namedFor p r)) ↔ ∀ t ∈ i.collectorTexts p, Paired t := by
  obtain ⟨rps, nodes, hrps, hbound, hrs⟩ := logRequests_eq_ok.mp h
  obtain ⟨s, hs⟩ := pipelines?_eq_some hrps
  have hreceivers : rps = rs.map (·.receiver) :=
    Option.some.inj (hrps.symm.trans (receiver_logRequests h))
  have hne : rs ≠ [] := by
    rintro rfl
    rw [hs] at hreceivers
    exact nomatch hreceivers
  have hids : ∀ r ∈ rs, (Paired r.name ↔ Paired i.pipeline ∧ Paired i.receiverId) := by
    intro r hr
    rw [hrs] at hr
    obtain ⟨⟨name, rp⟩, hz, rfl⟩ := List.mem_map.mp hr
    exact paired_of_mem_pipelineNames (List.of_mem_zip hz).1
  have hnodes : ∀ r ∈ rs, ((∀ n ∈ r.nodes, n.config.Paired) ↔
      (∀ t ∈ i.expand.processors.flatMap (·.processor.collectorTexts), Paired t) ∧
        Paired i.receiverId ∧ Paired i.pipeline) := by
    intro r hr
    rw [hrs] at hr
    obtain ⟨⟨name, rp⟩, hz, rfl⟩ := List.mem_map.mp hr
    have hrp := (List.of_mem_zip hz).2
    rw [hs] at hrp
    obtain rfl := List.mem_singleton.mp hrp
    -- the receiver brings no processors along
    show (∀ n ∈ nodes.flatten ++ [identityNode i.expand], n.config.Paired) ↔ _
    rw [List.forall_mem_append, List.forall_mem_singleton, paired_logNodes hbound,
      paired_identityNode]
    rfl
  rw [pairedPipelines_iff (sound_of_logRequests h) hne hids hnodes, ← hreceivers,
    LogReceiver.paired_pipelines? hrps, LogInstance.collectorTexts]
  simp only [List.forall_mem_cons, List.forall_mem_append]
  grind only

/-! ## Dollar signs of a document -/

/-- The texts that come into the document, but for those that are made of patterns. -/
def texts (c : Config) (p : Platform) (o : CompileOptions) (ms : List MetricsInstance)
    (ls : List LogInstance) : List String :=
  c.collectorLogLevel o.defaultLogLevel
    :: (ms.flatMap (·.collectorTexts p) ++ ls.flatMap (·.collectorTexts p))

/-- The requests of all instances bring their texts into the document. -/
theorem Requested.paired_iff (h : Requested c ms ls rss) :
    (∀ r ∈ requests ms rss, PairedPipeline (namedFor p r)) ↔
      (∀ i ∈ ms, (∀ t ∈ i.collectorTexts p, Paired t) ∧
        ∀ pattern ∈ i.patterns, Paired (Pattern.ofGlob pattern)) ∧
      ∀ i ∈ ls, ∀ t ∈ i.collectorTexts p, Paired t := by
  have hlogs : ∀ {ls : List LogInstance} {rss : List (List PipelineRequest)},
      List.Forall₂ (fun i rs => logRequests i = .ok rs) ls rss →
        ((∀ r ∈ rss.flatten, PairedPipeline (namedFor p r)) ↔
          ∀ i ∈ ls, ∀ t ∈ i.collectorTexts p, Paired t) := by
    intro ls rss heach
    induction heach with
    | nil => exact iff_of_true (List.forall_mem_nil _) (List.forall_mem_nil _)
    | cons hi _ ih =>
        rw [List.flatten_cons, List.forall_mem_append, List.forall_mem_cons, ih, pairedLogs_iff hi]
  rw [requests, List.forall_mem_append, hlogs h.each, List.forall_mem_flatMap]
  simp only [pairedMetrics_iff]

/-- **Where variables are expanded.** The dollar signs in the texts of a document come in pairs
exactly if those of all texts that go into it do, and no metric is excluded but by patterns that end
in a dollar sign and have no other. -/
theorem compile_dollars_iff {files : Files} (h : compile c p o = .ok files) :
    ∃ ms ls rss doc, Requested c ms ls rss ∧ files = .ofList [(Graph.fileName, Yaml.write doc)] ∧
      ((∀ s ∈ doc.scalars, Paired s) ↔ (∀ t ∈ texts c p o ms ls, Paired t) ∧
        ∀ i ∈ ms, ∀ pattern ∈ i.patterns,
          ∃ head, pattern = head ++ "$" ∧ '$' ∉ head.toList) := by
  obtain ⟨g, hg, hwrite⟩ := bind_eq_ok.mp h
  obtain ⟨ms, ls, rss, parts, hreq, hparts, rfl⟩ := build_eq_ok hg
  obtain ⟨doc, hdoc, hpaired⟩ := paired_document (c := c) (p := p) (o := o) hparts hreq.sound
  obtain ⟨text, htext, hfiles⟩ := bind_eq_ok.mp hwrite
  obtain ⟨doc', hdoc', hwritten⟩ := bind_eq_ok.mp (mapError_eq_ok.mp htext)
  obtain rfl := Except.ok.inj (hdoc.symm.trans hdoc')
  obtain rfl := Except.ok.inj hwritten
  refine ⟨ms, ls, rss, doc, hreq, (Except.ok.inj hfiles).symm, ?_⟩
  show doc.Paired ↔ _
  rw [hpaired, hreq.paired_iff, texts, List.forall_mem_cons, List.forall_mem_append,
    List.forall_mem_flatMap, List.forall_mem_flatMap]
  simp only [paired_ofGlob_iff, forall_and]
  grind only

/-- Dollar signs in a path, in an expression and in a pattern, all of which come in pairs in the
document. -/
def doubledDollars : Config where
  logging := some {
    receivers := .ofList [("f", .files { includePaths := ["/$$a.log"] })]
    processors := .ofList [("line", .parseRegex { regex := "^(?<price>\\$$.*)$$" })]
    pipelines := .ofList [
      ("p", { receivers := ["f"], processors := ["line"], engine := .collector })] }
  metrics := some {
    receivers := .ofList [("o", .otlp none)]
    processors := .ofList [("drop", .excludeMetrics ["workload.googleapis.com/price$"])]
    pipelines := .ofList [("m", { receivers := ["o"], processors := ["drop"] })] }

/-- The dollar signs in the document for `doubledDollars`. -/
theorem compile_dollars_iff_doubledDollars :
    ∃ files, compile doubledDollars samplePlatform {} = .ok files ∧
      ∃ doc : Tree, files = .ofList [(Graph.fileName, Yaml.write doc)] ∧
        ∀ s ∈ doc.scalars, Paired s := by
  obtain ⟨files, h⟩ : ∃ files, compile doubledDollars samplePlatform {} = .ok files :=
    exists_of_isOk (by decide +kernel)
  obtain ⟨ms, ls, rss, doc, hreq, hfiles, hiff⟩ := compile_dollars_iff h
  have hpaired : (doubledDollars.metricsInstances >>= fun ms =>
      (doubledDollars.logInstances .collector).map fun ls =>
        decide ((∀ t ∈ texts doubledDollars samplePlatform {} ms ls, Paired t) ∧
          ∀ i ∈ ms, ∀ pattern ∈ i.patterns, Paired (Pattern.ofGlob pattern))) = .ok true := by
    rfl
  obtain ⟨ms', hms, hpaired⟩ := bind_eq_ok.mp hpaired
  obtain rfl := Except.ok.inj (hreq.metrics.symm.trans hms)
  obtain ⟨htexts, hpatterns⟩ := of_map_decide hreq.logs hpaired
  exact ⟨files, h, doc, hfiles, hiff.mpr ⟨htexts, fun i hi pattern hpattern =>
    paired_ofGlob_iff.mp (hpatterns i hi pattern hpattern)⟩⟩

/-- Metrics of the host without those of processes. -/
def excludedProcesses : Config where
  metrics := some {
    receivers := .ofList [("h", .hostmetrics none)]
    processors := .ofList [("drop", .excludeMetrics ["agent.googleapis.com/processes/*"])]
    pipelines := .ofList [("m", { receivers := ["h"], processors := ["drop"] })] }

/-- **The expression for excluded metrics ends in a dollar sign that is not doubled.** -/
theorem compile_openDollar : excludedProcesses.check = .ok () ∧
    ∃ files, compile excludedProcesses samplePlatform {} = .ok files ∧
      ∃ doc : Tree, files = .ofList [(Graph.fileName, Yaml.write doc)] ∧
        "^agent\\.googleapis\\.com/processes/.*$" ∈ doc.scalars ∧
          ¬ Paired "^agent\\.googleapis\\.com/processes/.*$" := by
  obtain ⟨files, h⟩ : ∃ files, compile excludedProcesses samplePlatform {} = .ok files :=
    exists_of_isOk rfl
  have hscalar : ((build excludedProcesses samplePlatform {}).toOption.map fun g =>
      g.document.map fun doc =>
        decide ("^agent\\.googleapis\\.com/processes/.*$" ∈ doc.scalars)) = some (.ok true) := by
    rfl
  obtain ⟨g, hg, hwrite⟩ := bind_eq_ok.mp h
  obtain ⟨text, htext, hfiles⟩ := bind_eq_ok.mp hwrite
  obtain ⟨doc, hdoc, hwritten⟩ := bind_eq_ok.mp (mapError_eq_ok.mp htext)
  obtain rfl := Except.ok.inj hwritten
  rw [hg] at hscalar
  have hmem := of_map_decide hdoc (Option.some.inj hscalar)
  exact ⟨by decide +kernel, files, h, doc, (Except.ok.inj hfiles).symm, hmem, by decide⟩

end CollectorGraph

end Telemetry
