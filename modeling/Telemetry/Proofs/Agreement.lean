import Telemetry.Compile.Basic
import Telemetry.Proofs.Run

/-!
# What an engine reads

Each engine compiles some of the service pipelines, and looks up the ids that these list. Whatever
else a configuration says should make no difference: components that no such pipeline lists, and
pipelines for the other engine, also where those are broken.

* **`Logging.Agrees`**, **`Metrics.Agrees`** — two domains have the same pipelines for an engine, and
  the same definitions of the ids that those list.
* **`Config.logInstances_congr`**, **`Config.metricsInstances_congr`** — domains that agree are
  resolved alike, and where this fails, it fails alike.
* **`compile_eq_of_agrees`** — so two configurations that agree have the same files, or the same
  error.
-/

namespace Telemetry

open Failing

/-! ## Domains that agree -/

/-- Two logging domains agree for an engine: they have the same pipelines for it, and under each id
that one of those lists the same definition, or none. -/
structure Logging.Agrees (engine : LogEngine) (l l' : Logging) : Prop where
  pipelines : ∀ id p, p.engine = engine →
    (l.pipelines.get? id = some p ↔ l'.pipelines.get? id = some p)
  receivers : ∀ id p, l.pipelines.get? id = some p → p.engine = engine →
    ∀ r ∈ p.receivers, l.receivers.get? r = l'.receivers.get? r
  processors : ∀ id p, l.pipelines.get? id = some p → p.engine = engine →
    ∀ r ∈ p.processors, l.processors.get? r = l'.processors.get? r
  exporters : ∀ id p, l.pipelines.get? id = some p → p.engine = engine →
    ∀ r ∈ p.exporters, l.exporters.get? r = l'.exporters.get? r

/-- Two metrics domains agree: they have the same pipelines, and under each id that one of those
lists the same definition, or none. -/
structure Metrics.Agrees (m m' : Metrics) : Prop where
  pipelines : ∀ id p, m.pipelines.get? id = some p ↔ m'.pipelines.get? id = some p
  receivers : ∀ id p, m.pipelines.get? id = some p →
    ∀ r ∈ p.receivers, m.receivers.get? r = m'.receivers.get? r
  processors : ∀ id p, m.pipelines.get? id = some p →
    ∀ r ∈ p.processors, m.processors.get? r = m'.processors.get? r
  exporters : ∀ id p, m.pipelines.get? id = some p →
    ∀ r ∈ p.exporters, m.exporters.get? r = m'.exporters.get? r

/-! ## Reading agreement off -/

deriving instance DecidableEq for Keyed
deriving instance DecidableEq for ParseRegex
deriving instance DecidableEq for FieldChange
deriving instance DecidableEq for ModifyFields
deriving instance DecidableEq for LogProcessorConfig

/-- Whether domains agree can be read off the entries of the pipelines. -/
theorem Logging.agrees_iff {engine : LogEngine} {l l' : Logging} :
    l.Agrees engine l' ↔
      l.pipelines.entries.filter (·.2.engine = engine)
        = l'.pipelines.entries.filter (·.2.engine = engine) ∧
      ∀ e ∈ l.pipelines.entries.filter (·.2.engine = engine),
        (∀ r ∈ e.2.receivers, l.receivers.get? r = l'.receivers.get? r) ∧
        (∀ r ∈ e.2.processors, l.processors.get? r = l'.processors.get? r) ∧
        ∀ r ∈ e.2.exporters, l.exporters.get? r = l'.exporters.get? r := by
  have hmem : ∀ (l : Logging) id p, (id, p) ∈ l.pipelines.entries.filter (·.2.engine = engine) ↔
      l.pipelines.get? id = some p ∧ p.engine = engine := by
    intro l id p
    rw [List.mem_filter, Keyed.mem_entries_iff, decide_eq_true_iff]
  constructor
  · intro h
    refine ⟨Keyed.filter_entries_congr fun id p hp => h.pipelines id p (by simpa using hp), ?_⟩
    rintro ⟨id, p⟩ he
    obtain ⟨hget, he⟩ := (hmem l id p).mp he
    exact ⟨h.receivers id p hget he, h.processors id p hget he, h.exporters id p hget he⟩
  · rintro ⟨hentries, hlisted⟩
    have hlisted : ∀ id p, l.pipelines.get? id = some p → p.engine = engine → _ :=
      fun id p hget he => hlisted (id, p) ((hmem l id p).mpr ⟨hget, he⟩)
    refine ⟨?_, fun id p hget he => (hlisted id p hget he).1,
      fun id p hget he => (hlisted id p hget he).2.1,
      fun id p hget he => (hlisted id p hget he).2.2⟩
    intro id p he
    have hboth := (hmem l id p).symm.trans ((iff_of_eq (hentries ▸ rfl)).trans (hmem l' id p))
    simpa [he] using hboth

instance (engine : LogEngine) (l l' : Logging) : Decidable (l.Agrees engine l') :=
  decidable_of_iff _ Logging.agrees_iff.symm

/-- Whether domains agree can be read off the entries of the pipelines. -/
theorem Metrics.agrees_iff {m m' : Metrics} :
    m.Agrees m' ↔ m.pipelines.entries = m'.pipelines.entries ∧
      ∀ e ∈ m.pipelines.entries,
        (∀ r ∈ e.2.receivers, m.receivers.get? r = m'.receivers.get? r) ∧
        (∀ r ∈ e.2.processors, m.processors.get? r = m'.processors.get? r) ∧
        ∀ r ∈ e.2.exporters, m.exporters.get? r = m'.exporters.get? r := by
  constructor
  · intro h
    have hall := Keyed.filter_entries_congr (q := fun _ => true) fun id p _ => h.pipelines id p
    rw [List.filter_true, List.filter_true] at hall
    refine ⟨hall, ?_⟩
    rintro ⟨id, p⟩ he
    have hget := Keyed.mem_entries_iff.mp he
    exact ⟨h.receivers id p hget, h.processors id p hget, h.exporters id p hget⟩
  · rintro ⟨hentries, hlisted⟩
    have hlisted : ∀ id p, m.pipelines.get? id = some p → _ :=
      fun id p hget => hlisted (id, p) (Keyed.mem_entries_iff.mpr hget)
    refine ⟨?_, fun id p hget => (hlisted id p hget).1, fun id p hget => (hlisted id p hget).2.1,
      fun id p hget => (hlisted id p hget).2.2⟩
    intro id p
    rw [← Keyed.mem_entries_iff, ← Keyed.mem_entries_iff, hentries]

instance (m m' : Metrics) : Decidable (m.Agrees m') :=
  decidable_of_iff _ Metrics.agrees_iff.symm

/-- The logging domain of a configuration; one that is not mentioned is empty. -/
def Config.loggingDomain (c : Config) : Logging :=
  c.logging.getD {}

/-- The metrics domain of a configuration; one that is not mentioned is empty. -/
def Config.metricsDomain (c : Config) : Metrics :=
  c.metrics.getD {}

/-! ## Resolving alike -/

namespace Logging

variable {l l' : Logging}

/-- The same definitions give the same instances of a pipeline, or the same error. -/
theorem instancesOf_congr {id : String} {p : LogPipeline}
    (hreceivers : ∀ r ∈ p.receivers, l.receivers.get? r = l'.receivers.get? r)
    (hprocessors : ∀ r ∈ p.processors, l.processors.get? r = l'.processors.get? r)
    (hexporters : ∀ r ∈ p.exporters, l.exporters.get? r = l'.exporters.get? r) :
    l.instancesOf id p = l'.instancesOf id p := by
  have hbind : p.processors.mapM (l.bindProcessor id) = p.processors.mapM (l'.bindProcessor id) := by
    refine mapM_congr ?_
    intro r hr
    rw [bindProcessor, bindProcessor, hprocessors r hr]
  have hcheck : p.exporters.forM (l.checkExporter id) = p.exporters.forM (l'.checkExporter id) := by
    refine forM_congr ?_
    intro r hr
    rw [checkExporter, checkExporter, Keyed.contains, Keyed.contains, hexporters r hr]
  have hinstances : ∀ (processors : List Binding) (exporters : List String),
      (p.receivers.mapM fun receiverId => do
        let receiver ← l.bindReceiver id receiverId
        return (⟨id, receiverId, receiver, processors, exporters, p.engine⟩ : LogInstance))
        = p.receivers.mapM fun receiverId => do
          let receiver ← l'.bindReceiver id receiverId
          return ⟨id, receiverId, receiver, processors, exporters, p.engine⟩ := by
    intro processors exporters
    refine mapM_congr ?_
    intro r hr
    rw [bindReceiver, bindReceiver, hreceivers r hr]
  -- the steps come in the same order, so that the first failure is the same, too
  rw [instancesOf, instancesOf, hbind, exporterIds, exporterIds, hcheck]
  simp only [hinstances]

/-- **Domains that agree are resolved alike,** and fail at the same reference. -/
theorem resolve_congr {engine : LogEngine} (hl : l.checkIds = .ok ()) (hl' : l'.checkIds = .ok ())
    (h : l.Agrees engine l') : l.resolve engine = l'.resolve engine := by
  obtain ⟨hpipelines, hlisted⟩ := agrees_iff.mp h
  have hinstances : (l.pipelines.entries.filter (·.2.engine = engine)).mapM
        (fun e => l.instancesOf e.1 e.2)
      = (l.pipelines.entries.filter (·.2.engine = engine)).mapM
        fun e => l'.instancesOf e.1 e.2 := by
    refine mapM_congr ?_
    intro e he
    obtain ⟨hreceivers, hprocessors, hexporters⟩ := hlisted e he
    exact instancesOf_congr hreceivers hprocessors hexporters
  -- tags are looked at for all instances together, and these are the same by now
  have key : ∀ l : Logging, l.checkIds = .ok () → l.resolve engine
      = ((l.pipelines.entries.filter (·.2.engine = engine)).mapM fun e => l.instancesOf e.1 e.2)
        >>= fun is => checkTags [] is.flatten >>= fun _ => pure is.flatten := by
    intro l hl
    rw [resolve, hl]
    rfl
  rw [key l hl, key l' hl', hinstances, hpipelines]

end Logging

namespace Metrics

variable {m m' : Metrics}

/-- A look-up depends on the entry of the id only. -/
theorem lookUp_congr {α : Type} {table table' : Keyed α} {role : Role} {pipeline id : String}
    (h : table.get? id = table'.get? id) :
    lookUp table role pipeline id = lookUp table' role pipeline id := by
  rw [lookUp, lookUp, h]

/-- The same definitions give the same instances of a pipeline, or the same error. -/
theorem instancesOf_congr {id : String} {p : MetricsPipeline}
    (hreceivers : ∀ r ∈ p.receivers, m.receivers.get? r = m'.receivers.get? r)
    (hprocessors : ∀ r ∈ p.processors, m.processors.get? r = m'.processors.get? r)
    (hexporters : ∀ r ∈ p.exporters, m.exporters.get? r = m'.exporters.get? r) :
    m.instancesOf id p = m'.instancesOf id p := by
  have hexporterType : m.exporterType id p.exporters = m'.exporterType id p.exporters := by
    have hlookUps : p.exporters.mapM (lookUp m.exporters .exporter id)
        = p.exporters.mapM (lookUp m'.exporters .exporter id) :=
      mapM_congr fun r hr => lookUp_congr (hexporters r hr)
    rw [exporterType, exporterType, hlookUps]
  have hlisted : (p.processors.mapM fun processorId => do
        let processor ← lookUp m.processors .processor id processorId
        return (processorId, processor))
      = p.processors.mapM fun processorId => do
        let processor ← lookUp m'.processors .processor id processorId
        return (processorId, processor) := by
    refine mapM_congr ?_
    intro r hr
    rw [lookUp_congr (hprocessors r hr)]
  have hinstances : ∀ (t : ExporterType) (processors : List (String × MetricsProcessor)),
      (p.receivers.mapM fun receiverId => do
        let receiver ← lookUp m.receivers .receiver id receiverId
        return (⟨id, receiverId, receiver, processors, t⟩ : MetricsInstance))
        = p.receivers.mapM fun receiverId => do
          let receiver ← lookUp m'.receivers .receiver id receiverId
          return ⟨id, receiverId, receiver, processors, t⟩ := by
    intro t processors
    refine mapM_congr ?_
    intro r hr
    rw [lookUp_congr (hreceivers r hr)]
  rw [instancesOf, instancesOf, hexporterType, hlisted]
  simp only [hinstances]

/-- **Domains that agree are resolved alike,** and fail at the same reference. -/
theorem resolve_congr (hm : m.checkIds = .ok ()) (hm' : m'.checkIds = .ok ()) (h : m.Agrees m') :
    m.resolve = m'.resolve := by
  obtain ⟨hpipelines, hlisted⟩ := agrees_iff.mp h
  have hinstances : m.pipelines.entries.mapM (fun e => m.instancesOf e.1 e.2)
      = m.pipelines.entries.mapM fun e => m'.instancesOf e.1 e.2 := by
    refine mapM_congr ?_
    intro e he
    obtain ⟨hreceivers, hprocessors, hexporters⟩ := hlisted e he
    exact instancesOf_congr hreceivers hprocessors hexporters
  have key : ∀ m : Metrics, m.checkIds = .ok () → m.resolve
      = (m.pipelines.entries.mapM fun e => m.instancesOf e.1 e.2)
        >>= fun is => pure is.flatten := by
    intro m hm
    rw [resolve, hm]
    rfl
  rw [key m hm, key m' hm', hinstances, hpipelines]

end Metrics

namespace Config

variable {c c' : Config}

/-- A logging domain that is not mentioned is resolved as an empty one. -/
theorem logInstances_eq_resolve (c : Config) (engine : LogEngine) :
    c.logInstances engine = c.loggingDomain.resolve engine := by
  rw [logInstances, loggingDomain]
  cases c.logging with
  | none => rfl
  | some l => rfl

/-- A metrics domain that is not mentioned is resolved as an empty one. -/
theorem metricsInstances_eq_resolve (c : Config) : c.metricsInstances = c.metricsDomain.resolve := by
  rw [metricsInstances, metricsDomain]
  cases c.metrics with
  | none => rfl
  | some m => rfl

theorem loggingDomain_checkIds (hc : c.check = .ok ()) : c.loggingDomain.checkIds = .ok () := by
  rw [loggingDomain]
  cases hl : c.logging with
  | none => rfl
  | some l => exact (logging_accepted hc hl).ids

theorem metricsDomain_checkIds (hc : c.check = .ok ()) : c.metricsDomain.checkIds = .ok () := by
  rw [metricsDomain]
  cases hm : c.metrics with
  | none => rfl
  | some m => exact metrics_checkIds hc hm

/-- Configurations whose logging domains agree have the same instances for the engine. -/
theorem logInstances_congr {engine : LogEngine} (hc : c.check = .ok ()) (hc' : c'.check = .ok ())
    (h : c.loggingDomain.Agrees engine c'.loggingDomain) :
    c.logInstances engine = c'.logInstances engine := by
  rw [logInstances_eq_resolve, logInstances_eq_resolve]
  exact Logging.resolve_congr (loggingDomain_checkIds hc) (loggingDomain_checkIds hc') h

/-- Configurations whose metrics domains agree have the same metrics instances. -/
theorem metricsInstances_congr (hc : c.check = .ok ()) (hc' : c'.check = .ok ())
    (h : c.metricsDomain.Agrees c'.metricsDomain) : c.metricsInstances = c'.metricsInstances := by
  rw [metricsInstances_eq_resolve, metricsInstances_eq_resolve]
  exact Metrics.resolve_congr (metricsDomain_checkIds hc) (metricsDomain_checkIds hc') h

/-- The log level of the log engine is that of the logging domain. -/
theorem engineLogLevel_congr (h : c.loggingDomain.logLevel = c'.loggingDomain.logLevel)
    (fallback : String) : c.engineLogLevel fallback = c'.engineLogLevel fallback := by
  have key : ∀ c : Config, c.engineLogLevel fallback = c.loggingDomain.logLevel.getD fallback := by
    intro c
    rw [engineLogLevel, loggingDomain]
    cases c.logging <;> rfl
  rw [key, key, h]

/-- The log level of the collector is that of the metrics domain, or else of the logging domain. -/
theorem collectorLogLevel_congr (h : c.loggingDomain.logLevel = c'.loggingDomain.logLevel)
    (hm : c.metricsDomain.logLevel = c'.metricsDomain.logLevel) (fallback : String) :
    c.collectorLogLevel fallback = c'.collectorLogLevel fallback := by
  have key : ∀ c : Config, c.metrics.bind (·.logLevel) = c.metricsDomain.logLevel := by
    intro c
    rw [metricsDomain]
    cases c.metrics <;> rfl
  rw [collectorLogLevel, collectorLogLevel, key, key, hm, engineLogLevel_congr h]

end Config

/-! ## Compiling alike -/

/-- What is compiled for the log engine depends on its instances and its log level. -/
theorem LogEngine.compile_congr_of_instances {c c' : Config} {o : CompileOptions}
    (hinstances : c.logInstances .fluentBit = c'.logInstances .fluentBit)
    (hlevel : c.engineLogLevel o.defaultLogLevel = c'.engineLogLevel o.defaultLogLevel)
    (p : Platform) : compile c p o = compile c' p o := by
  rw [compile, compile, sections, sections, hinstances, hlevel]

/-- What is compiled for the collector depends on the instances of both domains and its log level. -/
theorem CollectorGraph.compile_congr_of_instances {c c' : Config} {o : CompileOptions}
    (hmetrics : c.metricsInstances = c'.metricsInstances)
    (hlogs : c.logInstances .collector = c'.logInstances .collector)
    (hlevel : c.collectorLogLevel o.defaultLogLevel = c'.collectorLogLevel o.defaultLogLevel)
    (p : Platform) : compile c p o = compile c' p o := by
  have hparts : ofParts c p o = ofParts c' p o := by
    funext parts
    rw [ofParts, ofParts, hlevel]
  rw [compile, compile, build, build, hmetrics, hlogs, hparts]

/-- **Pipelines do not interfere.** For two accepted configurations with the same log level of the
logging domain that agree on the pipelines for the log engine, the result for this engine is the
same, be it files or an error. And so it is for the collector, if they have the same log levels in
both domains, and agree on the logging pipelines for the collector and on all metrics pipelines. -/
theorem compile_eq_of_agrees {c c' : Config} (hc : c.check = .ok ()) (hc' : c'.check = .ok ())
    (hlevel : c.loggingDomain.logLevel = c'.loggingDomain.logLevel)
    (p : Platform) (o : CompileOptions) :
    (c.loggingDomain.Agrees .fluentBit c'.loggingDomain →
      compile c .fluentBit p o = compile c' .fluentBit p o) ∧
    (c.metricsDomain.logLevel = c'.metricsDomain.logLevel →
      c.loggingDomain.Agrees .collector c'.loggingDomain →
      c.metricsDomain.Agrees c'.metricsDomain →
      compile c .collector p o = compile c' .collector p o) := by
  constructor
  · intro hlogs
    have hsame := LogEngine.compile_congr_of_instances (Config.logInstances_congr hc hc' hlogs)
      (Config.engineLogLevel_congr hlevel o.defaultLogLevel) p
    show (LogEngine.compile c p o).mapError Refusal.invalid
      = (LogEngine.compile c' p o).mapError Refusal.invalid
    rw [hsame]
  · intro hmetricsLevel hlogs hmetrics
    have hsame := CollectorGraph.compile_congr_of_instances
      (Config.metricsInstances_congr hc hc' hmetrics) (Config.logInstances_congr hc hc' hlogs)
      (Config.collectorLogLevel_congr hlevel hmetricsLevel o.defaultLogLevel) p
    show (CollectorGraph.compile c p o).mapError Refusal.invalid
      = (CollectorGraph.compile c' p o).mapError Refusal.invalid
    rw [hsame]

/-- A pipeline for each engine and one for metrics. -/
def separateEngines : Config where
  logging := some {
    receivers := .ofList [
      ("f", .files { includePaths := ["/a.log"] }),
      ("s", .syslog "tcp" "0.0.0.0" 5140)]
    processors := .ofList [("drop", .excludeLogs [⟨"message", "^debug"⟩])]
    logLevel := some "warn"
    pipelines := .ofList [
      ("a", { receivers := ["s", "f"], processors := ["drop"] }),
      ("b", { receivers := ["f"], engine := .collector })] }
  metrics := some {
    receivers := .ofList [("h", .hostmetrics none)]
    pipelines := .ofList [("m", { receivers := ["h"] })] }

/-- The same for the log engine. The pipeline for the collector lists a processor that is not
defined, nothing lists the added receiver, and there is no metrics domain. -/
def brokenCollector : Config where
  logging := some {
    receivers := .ofList [
      ("f", .files { includePaths := ["/a.log"] }),
      ("s", .syslog "tcp" "0.0.0.0" 5140),
      ("t", .tcp none none "json")]
    processors := .ofList [("drop", .excludeLogs [⟨"message", "^debug"⟩])]
    logLevel := some "warn"
    pipelines := .ofList [
      ("a", { receivers := ["s", "f"], processors := ["drop"] }),
      ("b", { receivers := ["f"], processors := ["nope"], engine := .collector })] }

/-- The same for the collector. The pipeline for the log engine lists other ids, one of which is not
defined, and the port of the receiver that it lists is another. -/
def brokenLogEngine : Config where
  logging := some {
    receivers := .ofList [
      ("f", .files { includePaths := ["/a.log"] }),
      ("s", .syslog "udp" "0.0.0.0" 5141)]
    logLevel := some "warn"
    pipelines := .ofList [
      ("a", { receivers := ["s"], processors := ["drop"] }),
      ("b", { receivers := ["f"], engine := .collector })] }
  metrics := some {
    receivers := .ofList [("h", .hostmetrics none), ("o", .otlp none)]
    pipelines := .ofList [("m", { receivers := ["h"] })] }

/-- What is broken for the other engine makes no difference to the files for `separateEngines`. -/
theorem compile_eq_of_agrees_separateEngines :
    separateEngines.check = .ok () ∧ brokenCollector.check = .ok () ∧
    brokenLogEngine.check = .ok () ∧
    (∃ files, compile brokenCollector .fluentBit samplePlatform {} = .ok files ∧
      compile separateEngines .fluentBit samplePlatform {} = .ok files) ∧
    (∃ files, compile brokenLogEngine .collector samplePlatform {} = .ok files ∧
      compile separateEngines .collector samplePlatform {} = .ok files) := by
  have hc : separateEngines.check = .ok () := rfl
  have hc' : brokenCollector.check = .ok () := rfl
  have hc'' : brokenLogEngine.check = .ok () := rfl
  have hengine := (compile_eq_of_agrees hc hc' rfl samplePlatform {}).1 (by decide)
  have hcollector := (compile_eq_of_agrees hc hc'' rfl samplePlatform {}).2
    rfl (by decide) (by decide)
  obtain ⟨files, h⟩ : ∃ files, compile brokenCollector .fluentBit samplePlatform {} = .ok files :=
    exists_of_isOk rfl
  obtain ⟨files', h'⟩ : ∃ files, compile brokenLogEngine .collector samplePlatform {} = .ok files :=
    exists_of_isOk rfl
  exact ⟨hc, hc', hc'', ⟨files, h, hengine.trans h⟩, ⟨files', h', hcollector.trans h'⟩⟩

end Telemetry
