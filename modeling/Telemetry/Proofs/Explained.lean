import Telemetry.Proofs.Components
import Telemetry.Proofs.References

/-!
# Errors that name what was written

An error about a component names its role, its id and its pipeline. These should be found in the
configuration: the pipeline lists the id, and what the error says is true of the component that is
defined under it. By the time an error is raised, components may have been replaced by those for
which they stand, and these bear the ids of the components that brought them.

* **`Config.Explains`** — what an error says is there in the configuration.
* **`Logging.resolve_explained`**, **`Metrics.resolve_explained`** — the errors of resolving.
* **`CollectorGraph.logRequests_explained`** — the errors about components that are not for the
  collector. One that a receiver brought is called a processor, under the id of the receiver.
* **`compile_explained`** — the errors of all backends.
-/

namespace Telemetry

open Failing

/-! ## What an error says -/

/-- The component of the logging domain to which a reference leads does not have a capability. -/
def Config.Lacks (c : Config) (r : Reference) (capability : String) : Prop :=
  r.domain = .logging ∧ ∃ l info, c.logging = some l ∧ l.component? r.role r.id = some info ∧
    capability ∉ info.capabilities

/-- The receiver with an id is for the log of a known application, one of whose processors does not
have a capability. -/
def Config.BringsLacking (c : Config) (id capability : String) : Prop :=
  ∃ l app source, c.logging = some l ∧ l.receivers.get? id = some (.app app source) ∧
    ∃ p ∈ LogProcessor.forApp app, capability ∉ p.capabilities

/-- What an error of a backend says is there in the configuration. An undefined reference is one
that a pipeline for the backend has, and it is not defined. A capability is missing in the component
to which a reference of a pipeline for the backend leads; if it is missing in a processor that the
receiver brought, the error names the role of that processor with the id of the receiver. -/
def Config.Explains (c : Config) (b : Backend) : CompileError → Prop
  | .undefinedReference domain role id pipeline =>
    c.Refers b ⟨domain, role, id, pipeline⟩ ∧ ¬ c.Defines ⟨domain, role, id, pipeline⟩
  | .missingCapability domain role id pipeline capability =>
    (c.Refers b ⟨domain, role, id, pipeline⟩ ∧ c.Lacks ⟨domain, role, id, pipeline⟩ capability) ∨
    (role = .processor ∧ c.BringsLacking id capability ∧
      c.Refers b ⟨domain, .receiver, id, pipeline⟩ ∧
      c.Lacks ⟨domain, .receiver, id, pipeline⟩ capability)
  | _ => True

/-! ## Undefined references -/

/-- The failures that a pipeline can have because of an id in one of its lists. -/
def UndefinedIn (domain : Domain) (pipeline : String) (listed : Role → List String)
    (defined : Role → String → Prop) (e : CompileError) : Prop :=
  ∃ role id, e = .undefinedReference domain role id pipeline ∧ id ∈ listed role ∧ ¬ defined role id

namespace Logging

variable {l : Logging} {pipeline : String}

/-- A processor that cannot be bound has no definition and is not built in. -/
theorem bindProcessor_explained (hl : l.Accepted) (id : String) :
    FailsOnly (fun e => e = .undefinedReference .logging .processor id pipeline ∧
      ¬ l.Defines .processor id) (l.bindProcessor pipeline id) := by
  rw [bindProcessor]
  by_cases hr : isReserved id = true
  · rw [if_pos hr]
    by_cases hb : ParserDef.isBuiltin id = true
    · rw [if_pos hb]
      exact .ok _
    · rw [if_neg hb]
      refine .error ⟨rfl, ?_⟩
      rintro (hid | hid)
      · rw [hl.not_reserved (.inr (.inl hid))] at hr
        exact Bool.noConfusion hr
      · exact hb (List.contains_iff_mem.mpr hid)
  · rw [if_neg hr]
    cases hg : l.processors.get? id with
    | some config => exact .ok _
    | none =>
        refine .error ⟨rfl, ?_⟩
        rintro (hid | hid)
        · exact Keyed.not_mem_keys_iff.mpr hg hid
        · exact hr (ParserDef.isReserved_of_mem_builtinNames id hid)

/-- An exporter that is refused has no definition and is not built in. -/
theorem checkExporter_explained (id : String) :
    FailsOnly (fun e => e = .undefinedReference .logging .exporter id pipeline ∧
      ¬ l.Defines .exporter id) (l.checkExporter pipeline id) := by
  rw [checkExporter]
  split
  · exact .ok _
  · rename_i hid
    refine .error ⟨rfl, ?_⟩
    rintro (hkey | hbuiltin)
    · exact hid (.inr (Option.isSome_iff_exists.mpr (Keyed.mem_keys_iff.mp hkey)))
    · exact hid (.inl hbuiltin)

/-- A receiver that cannot be bound has no definition. -/
theorem bindReceiver_explained (id : String) :
    FailsOnly (fun e => e = .undefinedReference .logging .receiver id pipeline ∧
      ¬ l.Defines .receiver id) (l.bindReceiver pipeline id) := by
  rw [bindReceiver]
  cases hg : l.receivers.get? id with
  | some config => exact .ok _
  | none => exact .error ⟨rfl, Keyed.not_mem_keys_iff.mpr hg⟩

/-- The instances of a pipeline fail at an id that it lists and that is not defined. -/
theorem instancesOf_explained (hl : l.Accepted) (p : LogPipeline) :
    FailsOnly (UndefinedIn .logging pipeline p.listed l.Defines) (l.instancesOf pipeline p) := by
  -- processors, exporters and receivers are looked at in this order
  refine .bind (.mapM ?_) fun processors _ => .bind ?_ fun exporters _ => .mapM ?_
  · exact fun id hid => (bindProcessor_explained hl id).imp
      fun e he => ⟨.processor, id, he.1, hid, he.2⟩
  · rw [exporterIds]
    split
    · exact .ok _
    · refine .bind (.forM ?_) fun _ _ => .ok _
      exact fun id hid => (checkExporter_explained id).imp
        fun e he => ⟨.exporter, id, he.1, hid, he.2⟩
  · intro id hid
    refine .bind ?_ fun _ _ => .ok _
    exact (bindReceiver_explained id).imp fun e he => ⟨.receiver, id, he.1, hid, he.2⟩

end Logging

/-- **An undefined reference in a logging pipeline is one.** Apart from that, resolving the logging
domain can fail at tags only. -/
theorem Logging.resolve_explained {c : Config} {l : Logging} (hc : c.check = .ok ())
    (hl : c.logging = some l) {b : Backend} {engine : LogEngine} (hb : b.engine? = some engine) :
    FailsOnly (c.Explains b) (l.resolve engine) := by
  have haccepted := Config.logging_accepted hc hl
  rw [resolve, haccepted.ids]
  refine .bind (.ok _) fun _ _ => .bind (.mapM ?_) fun _ _ => .bind ?_ fun _ _ => .ok _
  · rintro ⟨pipeline, p⟩ hmem
    obtain ⟨hmem, he⟩ := List.mem_filter.mp hmem
    refine (instancesOf_explained haccepted p).imp ?_
    rintro e ⟨role, id, rfl, hid, hundefined⟩
    refine ⟨⟨l, p, hl, Keyed.mem_entries_iff.mp hmem, ?_, hid⟩, ?_⟩
    · rw [hb, ← of_decide_eq_true he]
    · rintro ⟨l', hl', hdefined⟩
      obtain rfl : l = l' := Option.some.inj (hl.symm.trans hl')
      exact hundefined hdefined
  · intro e he
    obtain ⟨tag, p, r, p', r', rfl⟩ := checkTags_eq_error he
    trivial

namespace Metrics

variable {m : Metrics} {pipeline : String}

/-- An id that cannot be looked up has no definition. -/
theorem lookUp_explained {α : Type} {table : Keyed α} {role : Role} (id : String) :
    FailsOnly (fun e => e = .undefinedReference .metrics role id pipeline ∧ id ∉ table.keys)
      (lookUp table role pipeline id) := by
  rw [lookUp]
  cases hg : table.get? id with
  | some a => exact .ok _
  | none => exact .error ⟨rfl, Keyed.not_mem_keys_iff.mpr hg⟩

/-- The instances of a pipeline fail at an id that it lists and that is not defined, or because its
exporters are of several types. -/
theorem instancesOf_explained (p : MetricsPipeline) :
    FailsOnly (fun e => UndefinedIn .metrics pipeline p.listed m.Defines e ∨
      ∃ rule found, e = .cardinality .metrics rule found) (m.instancesOf pipeline p) := by
  refine .bind (.bind (.mapM ?_) fun exporters _ => ?_) fun _ _ =>
    .bind (.mapM ?_) fun _ _ => .mapM ?_
  · exact fun id hid => (lookUp_explained id).imp
      fun e he => .inl ⟨.exporter, id, he.1, hid, he.2⟩
  · split
    · exact .ok _
    · exact .ok _
    · exact .error (.inr ⟨_, _, rfl⟩)
  · intro id hid
    refine .bind ?_ fun _ _ => .ok _
    exact (lookUp_explained id).imp fun e he => .inl ⟨.processor, id, he.1, hid, he.2⟩
  · intro id hid
    refine .bind ?_ fun _ _ => .ok _
    exact (lookUp_explained id).imp fun e he => .inl ⟨.receiver, id, he.1, hid, he.2⟩

end Metrics

/-- **An undefined reference in a metrics pipeline is one.** -/
theorem Metrics.resolve_explained {c : Config} {m : Metrics} (hc : c.check = .ok ())
    (hm : c.metrics = some m) {b : Backend} (hb : b ≠ .fluentBit) :
    FailsOnly (c.Explains b) m.resolve := by
  rw [resolve, Config.metrics_checkIds hc hm]
  refine .bind (.ok _) fun _ _ => .bind (.mapM ?_) fun _ _ => .ok _
  rintro ⟨pipeline, p⟩ hmem
  refine (instancesOf_explained p).imp ?_
  rintro e (⟨role, id, rfl, hid, hundefined⟩ | ⟨rule, found, rfl⟩)
  · refine ⟨⟨m, p, hm, Keyed.mem_entries_iff.mp hmem, hb, hid⟩, ?_⟩
    rintro ⟨m', hm', hdefined⟩
    obtain rfl : m = m' := Option.some.inj (hm.symm.trans hm')
    exact hundefined hdefined
  · trivial

namespace Config

variable {c : Config} {b : Backend}

/-- The errors of resolving the logging instances for the engine of a backend. -/
theorem logInstances_explained (hc : c.check = .ok ()) {engine : LogEngine}
    (hb : b.engine? = some engine) : FailsOnly (c.Explains b) (c.logInstances engine) := by
  rw [logInstances]
  split
  · rename_i l hl
    exact Logging.resolve_explained hc hl hb
  · exact .ok _

/-- The errors of resolving the metrics instances. -/
theorem metricsInstances_explained (hc : c.check = .ok ()) (hb : b ≠ .fluentBit) :
    FailsOnly (c.Explains b) c.metricsInstances := by
  rw [metricsInstances]
  split
  · rename_i m hm
    exact Metrics.resolve_explained hc hm hb
  · exact .ok _

end Config

/-! ## Missing capabilities -/

/-- The processors into which one expands bear its id. -/
theorem Binding.id_of_mem_expand {b x : Binding} (h : x ∈ b.expand) : x.id = b.id := by
  rw [Binding.expand] at h
  split at h
  · obtain ⟨p, -, rfl⟩ := List.mem_map.mp h
    rfl
  · rw [List.mem_singleton.mp h]

/-- Only a receiver for the log of a known application brings processors. -/
theorem LogReceiverConfig.exists_app {config : LogReceiverConfig} {r : LogReceiver}
    {own : List LogProcessor} (h : (LogReceiver.configured config).expand? = some (r, own))
    {p : LogProcessor} (hp : p ∈ own) :
    ∃ app source, config = .app app source ∧ p ∈ LogProcessor.forApp app := by
  cases config with
  | files s =>
      obtain ⟨-, rfl⟩ := Prod.mk.inj (Option.some.inj h)
      cases hp
  | app a s =>
      obtain ⟨-, rfl⟩ := Prod.mk.inj (Option.some.inj h)
      exact ⟨a, s, rfl, hp⟩
  | syslog transport host port => cases h
  | tcp host port format => cases h
  | forward host port => cases h
  | eventLog channels => cases h

namespace CollectorGraph

variable {c : Config} {l : Logging} {i : LogInstance}

/-- An instance refers to its receiver, and so does its pipeline. -/
theorem refers_receiver (hl : c.logging = some l) (h : i.ResolvedIn l .collector) :
    c.Refers .collector ⟨.logging, .receiver, i.receiverId, i.pipeline⟩ := by
  obtain ⟨p, hp, he, hr, -⟩ := h.pipeline
  exact ⟨l, p, hl, hp, by rw [he]; rfl, hr⟩

/-- The receiver of an instance lacks what it lacks before it expands. -/
theorem lacks_receiver (hl : c.logging = some l) (h : i.ResolvedIn l .collector)
    (hlacks : "otel" ∉ i.receiver.capabilities) :
    c.Lacks ⟨.logging, .receiver, i.receiverId, i.pipeline⟩ "otel" := by
  obtain ⟨config, hconfig, hr⟩ := h.receiver
  refine ⟨rfl, l, config.info, hl, Logging.component?_of_receiver hconfig, ?_⟩
  rw [hr] at hlacks
  exact hlacks

/-- A processor that an instance lists and that is not for the collector is one of its pipeline. -/
theorem explains_processor (hl : c.logging = some l) (h : i.ResolvedIn l .collector) {x : Binding}
    (hx : x ∈ i.processors) (hlacks : "otel" ∉ x.processor.capabilities) :
    c.Refers .collector ⟨.logging, .processor, x.id, i.pipeline⟩ ∧
      c.Lacks ⟨.logging, .processor, x.id, i.pipeline⟩ "otel" := by
  obtain ⟨p, hp, he, -, hbound, -⟩ := h.pipeline
  obtain ⟨id, hid, hbind⟩ := exists_of_mem_forall₂ hbound hx
  obtain ⟨rfl, -⟩ := Logging.bindProcessor_eq_ok hbind
  obtain ⟨info, hinfo, hcap⟩ := Logging.component?_of_bindProcessor hbind
  exact ⟨⟨l, p, hl, hp, by rw [he]; rfl, hid⟩, rfl, l, info, hl, hinfo, hcap ▸ hlacks⟩

/-- **A missing capability is missing** in the receiver of an instance, in a processor that its
pipeline lists, or in one that the receiver brought. -/
theorem logRequests_explained (hl : c.logging = some l) (h : i.ResolvedIn l .collector) :
    FailsOnly (c.Explains .collector) (logRequests i) := by
  obtain ⟨config, hconfig, hr⟩ := h.receiver
  refine (logRequests_refused i).imp ?_
  rintro e (⟨hlacks, rfl⟩ | ⟨x, hx, hlacks, rfl⟩)
  · refine .inl ⟨refers_receiver hl h, lacks_receiver hl h ?_⟩
    -- were the receiver for the collector, so would be what it expands into
    rw [hr, ← LogReceiverConfig.otel_expanded_iff, ← hr]
    rintro ⟨hotel, -⟩
    exact hlacks hotel
  · rcases List.mem_append.mp hx with hown | hbound
    · -- the receiver brought it, under its own id
      obtain ⟨p, hp, rfl⟩ := List.mem_map.mp hown
      cases he : i.receiver.expand? with
      | none =>
          rw [he] at hp
          cases hp
      | some e =>
          rw [he] at hp
          rw [hr] at he
          obtain ⟨app, source, rfl, happ⟩ := LogReceiverConfig.exists_app he hp
          refine .inr ⟨rfl, ⟨l, app, source, hl, hconfig, p, happ, hlacks⟩,
            refers_receiver hl h, lacks_receiver hl h ?_⟩
          rw [hr]
          simp [LogReceiverConfig.capabilities_eq]
    · -- the pipeline lists it, or an application's processor that stands for it
      obtain ⟨y, hy, hxy⟩ := List.mem_flatMap.mp hbound
      rw [Binding.id_of_mem_expand hxy]
      refine .inl (explains_processor hl h hy ?_)
      exact fun hotel => hlacks (y.otel_expand_iff.mpr hotel x hxy)

/-- **The errors of the collector's backend.** Those of the serialiser name no component. -/
theorem fails_explained (hc : c.check = .ok ()) (p : Platform) (o : CompileOptions) :
    FailsOnly (c.Explains .collector) (compile c p o) := by
  have hadd : ∀ (parts : Parts) r, FailsOnly (c.Explains .collector) (parts.add r) := by
    intro parts r
    rw [Parts.add]
    split
    · exact .error trivial
    · exact .ok _
  refine .bind ?_ fun g _ => .bind (.mapError fun e _ => trivial) fun _ _ => .ok _
  refine .bind (Config.metricsInstances_explained hc (by decide)) fun ms _ =>
    .bind (.foldlM ?_ _) fun parts _ =>
      .bind (Config.logInstances_explained hc rfl) fun ls hls =>
        .bind (.foldlM ?_ _) fun _ _ => .ok _
  · exact fun parts i _ => .foldlM (fun parts r _ => hadd parts r) parts
  · intro parts i hi
    obtain ⟨l, hl, hbound⟩ := (Config.logInstances_eq_ok hls).2 i hi
    exact .bind (logRequests_explained hl hbound) fun _ _ =>
      .foldlM (fun parts r _ => hadd parts r) parts

end CollectorGraph

/-! ## Compiling -/

/-- The errors of the log engine's backend. All its components are for it. -/
theorem LogEngine.fails_explained {c : Config} (hc : c.check = .ok ()) (p : Platform)
    (o : CompileOptions) : FailsOnly (c.Explains .fluentBit) (compile c p o) := by
  intro e he
  rcases compile_eq_error he with he | ⟨reason, rfl⟩
  · exact Config.logInstances_explained hc rfl e he
  · trivial

namespace Collectd

variable {c : Config} {m : Metrics}

/-- A list that is refused has an id that is not defined, or has not one id. -/
theorem checkReference_explained {role : Role} {isDefined : String → Bool} {pipeline : String}
    {listed : List String} :
    FailsOnly (fun e => (∃ id ∈ listed, isDefined id = false ∧
        e = .undefinedReference .metrics role id pipeline) ∨
      ∃ rule found, e = .cardinality .metrics rule found)
    (checkReference role isDefined pipeline listed) := by
  unfold checkReference
  split
  · rename_i id
    split
    · exact .ok _
    · rename_i hid
      exact .error (.inl ⟨id, List.mem_singleton_self id, by simpa using hid, rfl⟩)
  · exact .error (.inr ⟨_, _, rfl⟩)

theorem checkReserved_explained (role : Role) (ids : List String) :
    FailsOnly (c.Explains .collectd) (checkReserved .metrics role ids) := by
  rw [checkReserved]
  split
  · exact .error trivial
  · exact .ok _

/-- The undefined references that are found in a pipeline of the metrics domain are there. -/
theorem checkPipelines_explained (hm : c.metrics = some m) :
    FailsOnly (c.Explains .collectd) (checkPipelines m) := by
  rw [checkPipelines]
  split
  · exact .error trivial
  refine .bind (checkReserved_explained _ _) fun _ _ => .forM ?_
  rintro ⟨pipeline, p⟩ hmem
  have hget := Keyed.mem_entries_iff.mp hmem
  have hlist : ∀ role isDefined, (∀ id, isDefined id = false → ¬ m.Defines role id) →
      FailsOnly (c.Explains .collectd) (checkReference role isDefined pipeline (p.listed role)) := by
    intro role isDefined hundefined
    refine checkReference_explained.imp ?_
    rintro e (⟨id, hid, hno, rfl⟩ | ⟨rule, found, rfl⟩)
    · refine ⟨⟨m, p, hm, hget, by decide, hid⟩, ?_⟩
      rintro ⟨m', hm', hdefined⟩
      obtain rfl : m = m' := Option.some.inj (hm.symm.trans hm')
      exact hundefined id hno hdefined
    · trivial
  have hcontains : ∀ {α : Type} (table : Keyed α) (id : String), table.contains id = false →
      id ∉ table.keys := by
    intro α table id hid
    refine Keyed.not_mem_keys_iff.mpr (Option.not_isSome_iff_eq_none.mp ?_)
    rw [← Keyed.contains, hid]
    exact Bool.false_ne_true
  exact .bind (hlist .receiver _ (hcontains m.receivers)) fun _ _ =>
    hlist .exporter _ (hcontains m.exporters)

/-- A refusal explains itself if it is no error of the compilation, or one that does. -/
def Explained (c : Config) (r : Refusal) : Prop :=
  ∀ e, r = .invalid e → c.Explains .collectd e

theorem explained_invalid {α : Type} {x : Except CompileError α}
    (hx : FailsOnly (c.Explains .collectd) x) : FailsOnly (Explained c) (x.mapError .invalid) := by
  refine .mapError (hx.imp ?_)
  intro e he e' h
  obtain rfl := Refusal.invalid.inj h
  exact he

/-- An interval that is refused is a parameter. -/
theorem collectionInterval_explained (id : String) (interval : Option String) :
    FailsOnly (Explained c) (collectionInterval id interval) := by
  have hparameter : ∀ reason,
      Explained c (invalidMetrics .receiver id "collection_interval" reason) := by
    intro reason e h
    obtain rfl := Refusal.invalid.inj h
    trivial
  rw [collectionInterval.eq_def]
  split
  · exact .ok _
  · dsimp only
    split
    · refine .error ?_
      intro e h
      cases h
    · exact .error (hparameter _)
    · split
      · exact .error (hparameter _)
      · exact .ok _

/-- **The refusals for collectd.** Apart from the pipelines, no reference is looked at, and nowhere
is a capability asked for. -/
theorem settings_explained (hm : c.metrics = some m) : FailsOnly (Explained c) (settings m) := by
  rw [settings]
  split
  · exact .ok _
  refine .bind ?receivers fun _ _ => .bind (explained_invalid ?processors) fun _ _ =>
    .bind (explained_invalid ?exporters) fun _ _ =>
      .bind (explained_invalid (checkPipelines_explained hm)) fun _ _ => .ok _
  case receivers =>
    rw [receiverSettings]
    split
    · refine .bind (explained_invalid (.error trivial)) ?_
      intro _ h
      cases h
    · refine .bind (explained_invalid (checkReserved_explained _ _)) fun _ _ => ?_
      split
      · exact .ok _
      · exact .bind (collectionInterval_explained _ _) fun _ _ => .ok _
      · exact explained_invalid (.error trivial)
  case processors =>
    refine .bind (checkReserved_explained _ _) fun _ _ => ?_
    split
    · exact .ok _
    · exact .error trivial
  case exporters =>
    rw [checkExporters]
    split
    · exact .error trivial
    · refine .bind (checkReserved_explained _ _) fun _ _ => .forM ?_
      rintro ⟨id, exporter⟩ -
      dsimp only
      split
      · exact .ok _
      · exact .error trivial

/-- The refusals of the backend for collectd. -/
theorem fails_explained (c : Config) (p : Platform) : FailsOnly (Explained c) (compile c p) := by
  rw [compile]
  split
  · rename_i m hm
    exact .bind (settings_explained hm) fun _ _ => .ok _
  · exact .bind (.ok _) fun _ _ => .ok _

end Collectd

/-- **An error of a compilation names what was written.** An undefined reference is one that a
pipeline for the backend has. A missing capability is missing in the component to which a reference
of a pipeline for the backend leads, under the role and the id of the error; but a processor that
the receiver for the log of a known application brought bears the id of this receiver, which the
pipeline lists among its receivers. -/
theorem compile_explained {c : Config} (hc : c.check = .ok ()) {b : Backend} {p : Platform}
    {o : CompileOptions} {e : CompileError} (h : compile c b p o = .error (.invalid e)) :
    c.Explains b e := by
  cases b with
  | fluentBit =>
      have he := mapError_eq_error_of_injective (fun _ _ => Refusal.invalid.inj) h
      exact LogEngine.fails_explained hc p o e he
  | collector =>
      have he := mapError_eq_error_of_injective (fun _ _ => Refusal.invalid.inj) h
      exact CollectorGraph.fails_explained hc p o e he
  | collectd => exact Collectd.fails_explained c p _ h e rfl

/-- A pipeline for the collector with a processor that joins lines, which the collector cannot do. -/
def joinedForCollector : Config where
  logging := some {
    receivers := .ofList [("f", .files { includePaths := ["/a.log"] })]
    processors := .ofList [("java", .parseMultiline [⟨languageExceptions, "java"⟩])]
    pipelines := .ofList [
      ("p", { receivers := ["f"], processors := ["java"], engine := .collector })] }

/-- The error for `joinedForCollector` names the processor, and `unreadProcessor` an id that is not
defined. -/
theorem compile_explained_joinedForCollector :
    compile joinedForCollector .collector samplePlatform {}
      = .error (.invalid (.missingCapability .logging .processor "java" "p" "otel")) ∧
    joinedForCollector.Explains .collector
      (.missingCapability .logging .processor "java" "p" "otel") ∧
    unreadProcessor.Refers .collector ⟨.metrics, .processor, "nope", "m"⟩ ∧
    ¬ unreadProcessor.Defines ⟨.metrics, .processor, "nope", "m"⟩ := by
  have hjoined : compile joinedForCollector .collector samplePlatform {}
      = .error (.invalid (.missingCapability .logging .processor "java" "p" "otel")) :=
    eq_error_of_failure? rfl
  have hundefined : compile unreadProcessor .collector samplePlatform {}
      = .error (.invalid (.undefinedReference .metrics .processor "nope" "m")) :=
    eq_error_of_failure? rfl
  exact ⟨hjoined, compile_explained rfl hjoined, compile_explained rfl hundefined⟩

/-- A pipeline for the collector with the log of a known application. -/
def appLogForCollector : Config where
  logging := some {
    receivers := .ofList [("web", .app .nginxAccess {})]
    pipelines := .ofList [("p1", { receivers := ["web"], engine := .collector })] }

/-- **An error can call a receiver a processor:** the pipeline of `appLogForCollector` lists no
processor. -/
theorem compile_appLogForCollector : appLogForCollector.check = .ok () ∧
    compile appLogForCollector .collector samplePlatform {}
      = .error (.invalid (.missingCapability .logging .processor "web" "p1" "otel")) ∧
    ∀ b, ¬ appLogForCollector.Refers b ⟨.logging, .processor, "web", "p1"⟩ := by
  refine ⟨rfl, eq_error_of_failure? rfl, ?_⟩
  rintro b ⟨l, p, hl, hp, -, hid⟩
  obtain rfl := Option.some.inj hl
  obtain rfl := Option.some.inj hp
  cases hid

end Telemetry
