import Telemetry.Compile.Basic
import Telemetry.Proofs.Run

/-!
# Defined references

A pipeline names its components by id, in a list for each role. A backend that gives files should
have looked at all three lists of every pipeline that it compiles. Each of the three ways to resolve
has its own check:

* **`Logging.defines_of_resolve`**, **`Metrics.defines_of_resolve`** — resolving the pipelines of a
  domain looks at all lists, also where there is no instance.
* **`Collectd.defines_of_settings`** — the check for collectd looks at receivers and exporters. It
  refuses every definition of a processor, but never reads which processors a pipeline lists.
* **`compile_references_iff`** — so all references of a compilation are defined, but for the
  processors that a pipeline lists for collectd, none of which is.
-/

namespace Telemetry

open Failing

/-! ## References and definitions -/

/-- A reference: in its list for a role, a pipeline of a domain has an id. -/
structure Reference where
  domain : Domain
  role : Role
  id : String
  pipeline : String

/-- The list of a logging pipeline for a role. -/
def LogPipeline.listed (p : LogPipeline) : Role → List String
  | .receiver => p.receivers
  | .processor => p.processors
  | .exporter => p.exporters
  | _ => []

/-- The list of a metrics pipeline for a role. -/
def MetricsPipeline.listed (p : MetricsPipeline) : Role → List String
  | .receiver => p.receivers
  | .processor => p.processors
  | .exporter => p.exporters
  | _ => []

/-- An id has a definition of a role in the logging domain, or is that of a built-in component. -/
def Logging.Defines (l : Logging) : Role → String → Prop
  | .receiver, id => id ∈ l.receivers.keys
  | .processor, id => id ∈ l.processors.keys ∨ id ∈ ParserDef.builtinNames
  | .exporter, id => id ∈ l.exporters.keys ∨ id = defaultLogExporter
  | _, _ => False

/-- An id has a definition of a role in the metrics domain. -/
def Metrics.Defines (m : Metrics) : Role → String → Prop
  | .receiver, id => id ∈ m.receivers.keys
  | .processor, id => id ∈ m.processors.keys
  | .exporter, id => id ∈ m.exporters.keys
  | _, _ => False

/-- The engine of the logging pipelines that a backend compiles. -/
def Backend.engine? : Backend → Option LogEngine
  | .fluentBit => some .fluentBit
  | .collector => some .collector
  | .collectd => none

/-- A pipeline that a backend compiles has a reference. All metrics pipelines are compiled for the
collector and for collectd. -/
def Config.Refers (c : Config) (b : Backend) (r : Reference) : Prop :=
  match r.domain with
  | .logging => ∃ l p, c.logging = some l ∧ l.pipelines.get? r.pipeline = some p ∧
      b.engine? = some p.engine ∧ r.id ∈ p.listed r.role
  | .metrics => ∃ m p, c.metrics = some m ∧ m.pipelines.get? r.pipeline = some p ∧
      b ≠ .fluentBit ∧ r.id ∈ p.listed r.role

/-- A reference is defined in its domain. -/
def Config.Defines (c : Config) (r : Reference) : Prop :=
  match r.domain with
  | .logging => ∃ l, c.logging = some l ∧ l.Defines r.role r.id
  | .metrics => ∃ m, c.metrics = some m ∧ m.Defines r.role r.id

/-! ## Logging pipelines -/

namespace Logging

variable {l : Logging}

/-- An exporter that passes its check is defined or built in. -/
theorem checkExporter_eq_ok {pipeline id : String} (h : l.checkExporter pipeline id = .ok ()) :
    l.Defines .exporter id := by
  rw [checkExporter] at h
  split at h
  · rename_i hid
    rcases hid with rfl | hid
    · exact .inr rfl
    · exact .inl (Keyed.mem_keys_iff.mpr (Option.isSome_iff_exists.mp hid))
  · cases h

/-- **All lists of a pipeline are looked at** before its instances are built, even if it lists no
receiver and has no instance. -/
theorem defines_of_instancesOf {pipeline : String} {p : LogPipeline} {is : List LogInstance}
    (h : l.instancesOf pipeline p = .ok is) :
    ∀ role, ∀ id ∈ p.listed role, l.Defines role id := by
  obtain ⟨processors, hprocessors, h⟩ := bind_eq_ok.mp h
  obtain ⟨exporters, hexporters, hreceivers⟩ := bind_eq_ok.mp h
  intro role id hid
  cases role with
  | receiver =>
      obtain ⟨i, -, hi⟩ := exists_of_mem_forall₂ (mapM_eq_ok.mp hreceivers).flip hid
      obtain ⟨receiver, hreceiver, -⟩ := bind_eq_ok.mp hi
      obtain ⟨config, hconfig, -⟩ := bindReceiver_eq_ok hreceiver
      exact Keyed.mem_keys_iff.mpr ⟨config, hconfig⟩
  | processor =>
      obtain ⟨b, -, hb⟩ := exists_of_mem_forall₂ (mapM_eq_ok.mp hprocessors).flip hid
      obtain ⟨-, ⟨hbuiltin, -⟩ | ⟨config, hconfig, -⟩⟩ := bindProcessor_eq_ok hb
      · exact .inr (List.contains_iff_mem.mp hbuiltin)
      · exact .inl (Keyed.mem_keys_iff.mpr ⟨config, hconfig⟩)
  | exporter =>
      have hid : id ∈ p.exporters := hid
      rw [exporterIds, if_neg (by simpa using List.ne_nil_of_mem hid)] at hexporters
      obtain ⟨_, hcheck, -⟩ := bind_eq_ok.mp hexporters
      exact checkExporter_eq_ok (forM_eq_ok.mp hcheck id hid)
  | pipeline => cases hid
  | service => cases hid

/-- **Resolving looks at all lists** of the pipelines for an engine. -/
theorem defines_of_resolve {engine : LogEngine} {is : List LogInstance}
    (h : l.resolve engine = .ok is) {pipeline : String} {p : LogPipeline}
    (hp : l.pipelines.get? pipeline = some p) (he : p.engine = engine) :
    ∀ role, ∀ id ∈ p.listed role, l.Defines role id := by
  obtain ⟨parts, hparts, -, -⟩ := resolve_parts h
  have hmem : (pipeline, p) ∈ l.pipelines.entries.filter (·.2.engine = engine) :=
    List.mem_filter.mpr ⟨Keyed.mem_entries_iff.mpr hp, by simpa using he⟩
  obtain ⟨part, -, hpart⟩ := exists_of_mem_forall₂ (mapM_eq_ok.mp hparts).flip hmem
  exact defines_of_instancesOf hpart

end Logging

/-! ## Metrics pipelines -/

namespace Metrics

variable {m : Metrics}

/-- What was looked up for a pipeline is in the table. -/
theorem mem_keys_of_lookUp {α : Type} {table : Keyed α} {role : Role} {pipeline id : String} {a : α}
    (h : lookUp table role pipeline id = .ok a) : id ∈ table.keys := by
  rw [lookUp] at h
  cases hg : table.get? id with
  | none =>
      rw [hg] at h
      exact nomatch h
  | some a => exact Keyed.mem_keys_iff.mpr ⟨a, hg⟩

/-- All lists of a pipeline are looked at before its instances are built. -/
theorem defines_of_instancesOf {pipeline : String} {p : MetricsPipeline}
    {is : List MetricsInstance} (h : m.instancesOf pipeline p = .ok is) :
    ∀ role, ∀ id ∈ p.listed role, m.Defines role id := by
  obtain ⟨exporterType, hexporters, h⟩ := bind_eq_ok.mp h
  obtain ⟨processors, hprocessors, hreceivers⟩ := bind_eq_ok.mp h
  intro role id hid
  cases role with
  | receiver =>
      obtain ⟨i, -, hi⟩ := exists_of_mem_forall₂ (mapM_eq_ok.mp hreceivers).flip hid
      obtain ⟨receiver, hreceiver, -⟩ := bind_eq_ok.mp hi
      exact mem_keys_of_lookUp hreceiver
  | processor =>
      obtain ⟨x, -, hx⟩ := exists_of_mem_forall₂ (mapM_eq_ok.mp hprocessors).flip hid
      obtain ⟨processor, hprocessor, -⟩ := bind_eq_ok.mp hx
      exact mem_keys_of_lookUp hprocessor
  | exporter =>
      obtain ⟨exporters, hexporters, -⟩ := bind_eq_ok.mp hexporters
      obtain ⟨exporter, -, hexporter⟩ := exists_of_mem_forall₂ (mapM_eq_ok.mp hexporters).flip hid
      exact mem_keys_of_lookUp hexporter
  | pipeline => cases hid
  | service => cases hid

/-- **Resolving looks at all lists** of all pipelines. -/
theorem defines_of_resolve {is : List MetricsInstance} (h : m.resolve = .ok is) {pipeline : String}
    {p : MetricsPipeline} (hp : m.pipelines.get? pipeline = some p) :
    ∀ role, ∀ id ∈ p.listed role, m.Defines role id := by
  obtain ⟨_, -, h⟩ := bind_eq_ok.mp h
  obtain ⟨parts, hparts, -⟩ := bind_eq_ok.mp h
  obtain ⟨part, -, hpart⟩ :=
    exists_of_mem_forall₂ (mapM_eq_ok.mp hparts).flip (Keyed.mem_entries_iff.mpr hp)
  exact defines_of_instancesOf hpart

end Metrics

/-! ## The check for collectd -/

namespace Collectd

variable {m : Metrics}

/-- The one id of a list that passes the check is defined. -/
theorem checkReference_eq_ok {role : Role} {isDefined : String → Bool} {pipeline : String}
    {listed : List String} (h : checkReference role isDefined pipeline listed = .ok ()) :
    ∀ id ∈ listed, isDefined id = true := by
  unfold checkReference at h
  split at h
  · split at h
    · exact List.forall_mem_singleton.mpr ‹_›
    · exact nomatch h
  · exact nomatch h

/-- No processor is defined where the processors pass their check. -/
theorem keys_processors_of_check (h : checkProcessors m = .ok ()) : m.processors.keys = [] := by
  obtain ⟨_, -, h⟩ := bind_eq_ok.mp h
  split at h
  · rename_i hentries
    rw [Keyed.keys, hentries]
    rfl
  · cases h

/-- Each pipeline has its receivers and its exporters checked. -/
theorem checkReferences_of_check (h : checkPipelines m = .ok ()) {pipeline : String}
    {p : MetricsPipeline} (hp : (pipeline, p) ∈ m.pipelines.entries) :
    checkReference .receiver m.receivers.contains pipeline p.receivers = .ok () ∧
      checkReference .exporter m.exporters.contains pipeline p.exporters = .ok () := by
  rw [checkPipelines] at h
  split at h
  · obtain ⟨_, hcount, -⟩ := bind_eq_ok.mp h
    exact nomatch hcount
  · obtain ⟨_, -, hlists⟩ := bind_eq_ok.mp h
    obtain ⟨_, hreceivers, hexporters⟩ := bind_eq_ok.mp (forM_eq_ok.mp hlists _ hp)
    exact ⟨hreceivers, hexporters⟩

/-- **What the check for collectd looks at:** the receivers and the exporters of the pipeline. It
does not look at its processors, none of which is defined. -/
theorem defines_of_settings {s : Settings} (h : settings m = .ok s) {pipeline : String}
    {p : MetricsPipeline} (hp : m.pipelines.get? pipeline = some p) :
    ∀ role, ∀ id ∈ p.listed role, m.Defines role id ↔ role ≠ .processor := by
  have hmem : (pipeline, p) ∈ m.pipelines.entries := Keyed.mem_entries_iff.mpr hp
  rw [settings] at h
  split at h
  · -- a domain that is not used has no pipelines
    rename_i hunused
    rw [isUnused, Bool.and_eq_true, Bool.and_eq_true, Keyed.isEmpty, Keyed.isEmpty, Keyed.isEmpty,
      List.isEmpty_iff, List.isEmpty_iff, List.isEmpty_iff] at hunused
    rw [hunused.2] at hmem
    exact nomatch hmem
  · obtain ⟨_, -, h⟩ := bind_eq_ok.mp h
    obtain ⟨_, hprocessors, h⟩ := bind_eq_ok.mp h
    obtain ⟨_, -, h⟩ := bind_eq_ok.mp h
    obtain ⟨_, hpipelines, -⟩ := bind_eq_ok.mp h
    have hnone := keys_processors_of_check (mapError_eq_ok.mp hprocessors)
    obtain ⟨hreceivers, hexporters⟩ :=
      checkReferences_of_check (mapError_eq_ok.mp hpipelines) hmem
    have hdefined : ∀ {α : Type} {table : Keyed α} {id : String}, table.contains id = true →
        id ∈ table.keys :=
      fun hid => Keyed.mem_keys_iff.mpr (Option.isSome_iff_exists.mp hid)
    intro role id hid
    cases role with
    | receiver =>
        exact iff_of_true (hdefined (checkReference_eq_ok hreceivers id hid)) (by decide)
    | processor =>
        refine iff_of_false ?_ (fun h => h rfl)
        show id ∉ m.processors.keys
        rw [hnone]
        exact List.not_mem_nil
    | exporter =>
        exact iff_of_true (hdefined (checkReference_eq_ok hexporters id hid)) (by decide)
    | pipeline => exact nomatch hid
    | service => exact nomatch hid

end Collectd

/-! ## The references of a compilation -/

variable {c : Config} {b : Backend} {p : Platform} {o : CompileOptions}

/-- The logging pipelines that a backend compiles are resolved where it gives files. -/
theorem logInstances_of_compile {files : Files} (h : compile c b p o = .ok files)
    {engine : LogEngine} (he : b.engine? = some engine) : ∃ is, c.logInstances engine = .ok is := by
  cases b with
  | fluentBit =>
      obtain rfl := Option.some.inj he
      obtain ⟨is, -, -, his, -⟩ := LogEngine.parts_of_compile (mapError_eq_ok.mp h)
      exact ⟨is, his⟩
  | collector =>
      obtain rfl := Option.some.inj he
      obtain ⟨g, hg, -⟩ := bind_eq_ok.mp (mapError_eq_ok.mp h)
      obtain ⟨_, -, hg⟩ := bind_eq_ok.mp hg
      obtain ⟨_, -, hg⟩ := bind_eq_ok.mp hg
      obtain ⟨is, his, -⟩ := bind_eq_ok.mp hg
      exact ⟨is, his⟩
  | collectd => exact nomatch he

/-- A reference of a logging pipeline is defined. -/
theorem defines_of_logging {files : Files} (h : compile c b p o = .ok files) {r : Reference}
    (hd : r.domain = .logging) (hr : c.Refers b r) : c.Defines r := by
  rw [Config.Refers, hd] at hr
  obtain ⟨l, pipeline, hl, hp, he, hid⟩ := hr
  obtain ⟨is, his⟩ := logInstances_of_compile h he
  rw [Config.logInstances, hl] at his
  rw [Config.Defines, hd]
  exact ⟨l, hl, Logging.defines_of_resolve his hp rfl r.role r.id hid⟩

/-- A reference of a metrics pipeline is defined, but for the processors for collectd. -/
theorem defines_of_metrics {files : Files} (h : compile c b p o = .ok files) {r : Reference}
    (hd : r.domain = .metrics) (hr : c.Refers b r) :
    c.Defines r ↔ ¬ (b = .collectd ∧ r.role = .processor) := by
  rw [Config.Refers, hd] at hr
  obtain ⟨m, pipeline, hm, hp, hb, hid⟩ := hr
  have hdefines : c.Defines r ↔ m.Defines r.role r.id := by
    rw [Config.Defines, hd, hm]
    simp
  rw [hdefines]
  cases b with
  | fluentBit => exact absurd rfl hb
  | collector =>
      obtain ⟨g, hg, -⟩ := bind_eq_ok.mp (mapError_eq_ok.mp h)
      obtain ⟨ms, hms, -⟩ := bind_eq_ok.mp hg
      rw [Config.metricsInstances, hm] at hms
      exact iff_of_true (Metrics.defines_of_resolve hms hp r.role r.id hid) (by simp)
  | collectd =>
      rw [compile, Collectd.compile, hm] at h
      obtain ⟨s, hs, -⟩ := bind_eq_ok.mp h
      simpa using Collectd.defines_of_settings hs hp r.role r.id hid

/-- **Which references of a compilation are defined.** Where a backend gives files, a reference of a
pipeline that it compiles is defined unless it is to a processor for collectd, which never is. So
all references are defined exactly if no pipeline lists a processor for collectd. -/
theorem compile_references_iff {files : Files} (h : compile c b p o = .ok files) :
    (∀ r, c.Refers b r → (c.Defines r ↔ ¬ (b = .collectd ∧ r.role = .processor))) ∧
    ((∀ r, c.Refers b r → c.Defines r) ↔
      (b = .collectd → ∀ r, c.Refers b r → r.role ≠ .processor)) := by
  have heach : ∀ r, c.Refers b r → (c.Defines r ↔ ¬ (b = .collectd ∧ r.role = .processor)) := by
    intro r hr
    cases hd : r.domain with
    | metrics => exact defines_of_metrics h hd hr
    | logging =>
        refine iff_of_true (defines_of_logging h hd hr) ?_
        rintro ⟨rfl, -⟩
        rw [Config.Refers, hd] at hr
        obtain ⟨_, _, -, -, he, -⟩ := hr
        exact nomatch he
  refine ⟨heach, ?_, ?_⟩
  · intro hall hb r hr hrole
    exact (heach r hr).mp (hall r hr) ⟨hb, hrole⟩
  · intro hno r hr
    refine (heach r hr).mpr ?_
    rintro ⟨hb, hrole⟩
    exact hno hb r hr hrole

/-- Pipelines of both domains for the collector; one of them lists no receiver. -/
def referredIds : Config where
  logging := some {
    receivers := .ofList [("f", .files { includePaths := ["/a.log"] })]
    processors := .ofList [("json", .parseJson {})]
    pipelines := .ofList [
      ("a", { receivers := ["f"], processors := ["json"], engine := .collector }),
      ("b", { processors := ["lib:nginx"], exporters := [defaultLogExporter],
              engine := .collector })] }
  metrics := some {
    receivers := .ofList [("h", .hostmetrics none)]
    processors := .ofList [("drop", .excludeMetrics ["agent.googleapis.com/cpu/*"])]
    pipelines := .ofList [("m", { receivers := ["h"], processors := ["drop"] })] }

/-- All references of `referredIds` are defined. -/
theorem compile_references_iff_referredIds :
    (∃ files, compile referredIds .collector samplePlatform {} = .ok files) ∧
      referredIds.Refers .collector ⟨.logging, .processor, "lib:nginx", "b"⟩ ∧
      ∀ r, referredIds.Refers .collector r → referredIds.Defines r := by
  obtain ⟨files, h⟩ : ∃ files, compile referredIds .collector samplePlatform {} = .ok files :=
    exists_of_isOk rfl
  refine ⟨⟨files, h⟩, ⟨_, _, rfl, rfl, rfl, List.mem_singleton_self _⟩, ?_⟩
  exact (compile_references_iff h).2.mpr fun hb => nomatch hb

/-- A metrics pipeline that lists a processor without a definition. -/
def unreadProcessor : Config where
  metrics := some {
    receivers := .ofList [("h", .hostmetrics none)]
    exporters := .ofList [("g", .googleCloudMonitoring)]
    pipelines := .ofList [
      ("m", { receivers := ["h"], processors := ["nope"], exporters := ["g"] })] }

/-- **For collectd, a processor can be listed that is not defined.** The collector refuses the same
configuration. -/
theorem compile_unreadProcessor : unreadProcessor.check = .ok () ∧
    (∃ files, compile unreadProcessor .collectd samplePlatform {} = .ok files) ∧
    compile unreadProcessor .collector samplePlatform {}
      = .error (.invalid (.undefinedReference .metrics .processor "nope" "m")) ∧
    ∃ r, unreadProcessor.Refers .collectd r ∧ ¬ unreadProcessor.Defines r := by
  refine ⟨rfl, exists_of_isOk rfl,
    eq_error_of_failure? rfl, ⟨.metrics, .processor, "nope", "m"⟩, ?_, ?_⟩
  · exact ⟨_, _, rfl, rfl, by decide, List.mem_singleton_self _⟩
  · rintro ⟨m, hm, hid⟩
    obtain rfl := Option.some.inj hm
    exact nomatch hid

end Telemetry
