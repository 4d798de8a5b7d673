import Telemetry.Catalog
import Telemetry.Proofs.Registry
import Telemetry.Proofs.Requests
import Telemetry.Proofs.Resolve
import Telemetry.Proofs.Simplify

/-!
# Components and the catalog

The catalog asks one sample of each type what it can do. That says something about the components of
a configuration because their parameters make no difference, and that says something about what
stands in a pipeline because nothing that expands is better than its parts.

* **`Logging.component?`** — what is known about the component that a configuration has under an id.
* **`Logging.mem_components`** — the catalog knows the same, whatever the parameters are.
* **`Catalog.lists_iff`** — so what the catalog lists for a type is true of each component of it.
* **`LogInstance.suits_expand_iff`** — an instance is for the collector exactly if the components to
  which it is bound are, before anything is expanded.
* **`LogInstance.expand_of_suits`** — and then expanding makes no difference to what it asks for.
-/

namespace Telemetry

/-! ## What is known about a component -/

/-- What is known about a receiver of the logging domain. -/
def LogReceiverConfig.info (r : LogReceiverConfig) : ComponentInfo :=
  ⟨.logging, .receiver, r.typeName, (LogReceiver.configured r).capabilities⟩

/-- What is known about a processor of the logging domain. -/
def LogProcessorConfig.info (p : LogProcessorConfig) : ComponentInfo :=
  ⟨.logging, .processor, p.typeName, (LogProcessor.configured p).capabilities⟩

/-- What is known about the built-in parser of a name. -/
def ParserDef.builtinInfo (name : String) : ComponentInfo :=
  ⟨.logging, .processor, name, (LogProcessor.builtinParser name).capabilities⟩

/-- What is known about the receiver or the processor that has an id in the logging domain, be it
defined there or built in. -/
def Logging.component? (l : Logging) : Role → String → Option ComponentInfo
  | .receiver, id => (l.receivers.get? id).map (·.info)
  | .processor, id =>
    if ParserDef.isBuiltin id then some (ParserDef.builtinInfo id)
    else (l.processors.get? id).map (·.info)
  | _, _ => none

namespace Logging

variable {l : Logging}

/-- The component that is bound to the id of a receiver. -/
theorem component?_of_receiver {id : String} {config : LogReceiverConfig}
    (h : l.receivers.get? id = some config) : l.component? .receiver id = some config.info := by
  rw [component?, h]
  rfl

/-- **The component that is bound to the id of a processor** is of the type and has the capabilities
that are known. -/
theorem component?_of_bindProcessor {pipeline id : String} {b : Binding}
    (h : l.bindProcessor pipeline id = .ok b) :
    ∃ info, l.component? .processor id = some info ∧
      info.capabilities = b.processor.capabilities := by
  by_cases hb : ParserDef.isBuiltin id = true
  · have hr := ParserDef.isReserved_of_mem_builtinNames id (List.contains_iff_mem.mp hb)
    rw [bindProcessor, if_pos hr, if_pos hb] at h
    obtain rfl := Except.ok.inj h
    exact ⟨_, if_pos hb, rfl⟩
  · obtain ⟨-, ⟨hbuiltin, -⟩ | ⟨config, hconfig, hprocessor⟩⟩ := bindProcessor_eq_ok h
    · exact absurd hbuiltin hb
    · refine ⟨config.info, ?_, by rw [hprocessor]; rfl⟩
      rw [component?, if_neg hb, hconfig]
      rfl

end Logging

/-! ## The catalog -/

/-- **What a receiver can do** depends on its type and not on its parameters. -/
theorem LogReceiverConfig.capabilities_eq (r : LogReceiverConfig) :
    (LogReceiver.configured r).capabilities = match r with
      | .files _ => ["fluent-bit", "otel", "expand"]
      | .forward _ _ => ["fluent-bit", "dynamic-tag"]
      | .app _ _ => ["expand"]
      | _ => ["fluent-bit"] := by
  cases r <;> rfl

/-- **What a processor can do** depends on its type and not on its parameters. -/
theorem LogProcessorConfig.capabilities_eq (p : LogProcessorConfig) :
    (LogProcessor.configured p).capabilities = match p with
      | .parseJson _ => ["fluent-bit", "otel"]
      | .parseRegex _ => ["fluent-bit", "otel"]
      | .parseMultiline _ => ["fluent-bit", "merge-target"]
      | .app _ => ["expand"]
      | _ => ["fluent-bit"] := by
  cases p <;> rfl

namespace Catalog

/-- The catalog lists a type of components with a capability. -/
def Lists (domain : Domain) (role : Role) (typeName capability : String) : Prop :=
  ∃ t ∈ components, t.domain = domain ∧ t.role = role ∧ t.typeName = typeName ∧
    t.has capability = true

instance (domain : Domain) (role : Role) (typeName capability : String) :
    Decidable (Lists domain role typeName capability) :=
  inferInstanceAs (Decidable (∃ _ ∈ _, _))

/-- **No type of a role comes twice.** -/
theorem components_unique : ∀ s ∈ components, ∀ t ∈ components, s.domain = t.domain →
    s.role = t.role → s.typeName = t.typeName → s = t := by
  decide +kernel

/-- Each receiver has a sample about which the same is known. -/
theorem exists_logReceivers (r : LogReceiverConfig) : ∃ s ∈ logReceivers, s.info = r.info := by
  simp only [LogReceiverConfig.info, LogReceiverConfig.capabilities_eq]
  cases r with
  | files s => exact ⟨.files {}, by decide, rfl⟩
  | syslog transport host port => exact ⟨.syslog "tcp" "0.0.0.0" 5140, by decide, rfl⟩
  | tcp host port format => exact ⟨.tcp none none "json", by decide, rfl⟩
  | forward host port => exact ⟨.forward none none, by decide, rfl⟩
  | eventLog channels => exact ⟨.eventLog ["System"], by decide, rfl⟩
  | app a s => exact ⟨.app a {}, by cases a <;> decide, rfl⟩

/-- Each processor has a sample about which the same is known. -/
theorem exists_logProcessors (p : LogProcessorConfig) :
    ∃ s ∈ logProcessors, s.info = p.info := by
  simp only [LogProcessorConfig.info, LogProcessorConfig.capabilities_eq]
  cases p with
  | parseJson q => exact ⟨.parseJson {}, by simp [logProcessors], rfl⟩
  | parseRegex q => exact ⟨.parseRegex { regex := "" }, by simp [logProcessors], rfl⟩
  | parseMultiline gs => exact ⟨.parseMultiline [], by simp [logProcessors], rfl⟩
  | excludeLogs rs => exact ⟨.excludeLogs [], by simp [logProcessors], rfl⟩
  | modifyFields m => exact ⟨.modifyFields {}, by simp [logProcessors], rfl⟩
  | app a => exact ⟨.app a, by cases a <;> simp [logProcessors, AppLog.all], rfl⟩

/-- The samples are in the catalog, and so are the built-in parsers. -/
theorem info_mem_components :
    (∀ r ∈ logReceivers, r.info ∈ components) ∧ (∀ p ∈ logProcessors, p.info ∈ components) ∧
      ∀ n ∈ ParserDef.builtinNames, ParserDef.builtinInfo n ∈ components := by
  decide

end Catalog

/-- **The catalog knows each component** that a configuration can have under an id, with its type and
with what it can do. -/
theorem Logging.mem_components {l : Logging} {role : Role} {id : String} {info : ComponentInfo}
    (h : l.component? role id = some info) :
    info ∈ Catalog.components ∧ info.domain = .logging ∧ info.role = role := by
  obtain ⟨hreceivers, hprocessors, hbuiltins⟩ := Catalog.info_mem_components
  cases role with
  | receiver =>
      obtain ⟨r, -, rfl⟩ := Option.map_eq_some_iff.mp h
      obtain ⟨s, hs, hinfo⟩ := Catalog.exists_logReceivers r
      exact ⟨hinfo ▸ hreceivers s hs, rfl, rfl⟩
  | processor =>
      rw [component?] at h
      split at h
      · rename_i hb
        obtain rfl := Option.some.inj h
        exact ⟨hbuiltins id (List.contains_iff_mem.mp hb), rfl, rfl⟩
      · obtain ⟨p, -, rfl⟩ := Option.map_eq_some_iff.mp h
        obtain ⟨s, hs, hinfo⟩ := Catalog.exists_logProcessors p
        exact ⟨hinfo ▸ hprocessors s hs, rfl, rfl⟩
  | exporter => cases h
  | pipeline => cases h
  | service => cases h

/-- **What the catalog lists for a type is what each component of this type can do.** -/
theorem Catalog.lists_iff {l : Logging} {role : Role} {id : String} {info : ComponentInfo}
    (h : l.component? role id = some info) (capability : String) :
    Lists .logging role info.typeName capability ↔ capability ∈ info.capabilities := by
  obtain ⟨hmem, hdomain, hrole⟩ := Logging.mem_components h
  constructor
  · rintro ⟨t, ht, htd, htr, htn, hhas⟩
    obtain rfl :=
      components_unique t ht info hmem (htd.trans hdomain.symm) (htr.trans hrole.symm) htn
    exact List.contains_iff_mem.mp hhas
  · intro hcap
    exact ⟨info, hmem, hdomain, hrole, rfl, List.contains_iff_mem.mpr hcap⟩

/-! ## Before and after expanding -/

/-- What a receiver becomes in an expanded instance, and the processors that it brings. -/
def LogReceiver.expanded (r : LogReceiver) : LogReceiver × List LogProcessor :=
  r.expand?.getD (r, [])

/-- Some processor for an application's log is not for the collector. -/
theorem LogProcessor.exists_forApp_lacking (app : AppLog) :
    ∃ p ∈ LogProcessor.forApp app, "otel" ∉ p.capabilities := by
  cases app with
  | nginxAccess => exact ⟨.httpRequest, by simp [forApp], by decide⟩
  | nginxError => exact ⟨.severity "level" AppLog.commonSeverities, by simp [forApp], by decide⟩
  | apacheAccess => exact ⟨.httpRequest, by simp [forApp], by decide⟩
  | apacheError =>
      exact ⟨.severity "level" (AppLog.commonSeverities ++ AppLog.traceSeverities),
        by simp [forApp], by decide⟩

/-- A processor that expands is not for the collector, and nor are all into which it expands. -/
theorem LogProcessor.lacking_of_expand? {p : LogProcessor} {ps : List LogProcessor}
    (h : p.expand? = some ps) : "otel" ∉ p.capabilities ∧ ∃ q ∈ ps, "otel" ∉ q.capabilities := by
  unfold expand? at h
  split at h
  · obtain rfl := Option.some.inj h
    exact ⟨by simp [LogProcessorConfig.capabilities_eq], exists_forApp_lacking _⟩
  · cases h

/-- A processor is for the collector exactly if all are into which it expands. -/
theorem Binding.otel_expand_iff (b : Binding) :
    (∀ x ∈ b.expand, "otel" ∈ x.processor.capabilities) ↔ "otel" ∈ b.processor.capabilities := by
  rw [Binding.expand]
  cases he : b.processor.expand? with
  | none => exact List.forall_mem_singleton
  | some ps =>
      obtain ⟨hlacks, q, hq, hlacks'⟩ := LogProcessor.lacking_of_expand? he
      exact iff_of_false
        (fun hall => hlacks' (hall ⟨b.id, q⟩ (List.mem_map.mpr ⟨q, hq, rfl⟩))) hlacks

/-- A processor for the collector stands for itself. -/
theorem Binding.expand_of_otel {b : Binding} (h : "otel" ∈ b.processor.capabilities) :
    b.expand = [b] := by
  cases he : b.processor.expand? with
  | none => rw [expand, he]
  | some ps => exact absurd h (LogProcessor.lacking_of_expand? he).1

/-- A receiver is for the collector exactly if it expands into one that is, and into processors that
are. -/
theorem LogReceiverConfig.otel_expanded_iff (config : LogReceiverConfig) :
    ("otel" ∈ (LogReceiver.configured config).expanded.1.capabilities ∧
      ∀ p ∈ (LogReceiver.configured config).expanded.2, "otel" ∈ p.capabilities) ↔
    "otel" ∈ (LogReceiver.configured config).capabilities := by
  cases config with
  | files s =>
      refine iff_of_true ⟨?_, fun _ => List.not_mem_nil.elim⟩ ?_
      · exact CollectorGraph.receiver_otel_iff.mpr ⟨_, rfl⟩
      · simp [capabilities_eq]
  | app a s =>
      obtain ⟨p, hp, hlacks⟩ := LogProcessor.exists_forApp_lacking a
      refine iff_of_false (fun h => hlacks (h.2 p hp)) ?_
      simp [capabilities_eq]
  | syslog transport host port => exact and_iff_left fun _ => List.not_mem_nil.elim
  | tcp host port format => exact and_iff_left fun _ => List.not_mem_nil.elim
  | forward host port => exact and_iff_left fun _ => List.not_mem_nil.elim
  | eventLog channels => exact and_iff_left fun _ => List.not_mem_nil.elim

/-- The processors of an expanded instance are for the collector exactly if those that its receiver
brings and those to which it is bound are. -/
theorem LogInstance.otel_processors_iff (i : LogInstance) :
    (∀ b ∈ i.expand.processors, "otel" ∈ b.processor.capabilities) ↔
      (∀ p ∈ i.receiver.expanded.2, "otel" ∈ p.capabilities) ∧
        ∀ b ∈ i.processors, "otel" ∈ b.processor.capabilities := by
  show (∀ b ∈ i.receiver.expanded.2.map (fun p => (⟨i.receiverId, p⟩ : Binding))
    ++ i.processors.flatMap Binding.expand, _) ↔ _
  rw [List.forall_mem_append]
  refine and_congr (List.forall_mem_map) ?_
  constructor
  · intro h b hb
    exact b.otel_expand_iff.mp fun x hx => h x (List.mem_flatMap.mpr ⟨b, hb, hx⟩)
  · intro h x hx
    obtain ⟨b, hb, hx⟩ := List.mem_flatMap.mp hx
    exact b.otel_expand_iff.mpr (h b hb) x hx

/-- **An instance is for the collector exactly if what it is bound to is.** Files become a tail,
which is as good; but the logs of known applications bring processors that are not for the
collector. -/
theorem LogInstance.suits_expand_iff {i : LogInstance} {config : LogReceiverConfig}
    (hr : i.receiver = .configured config) :
    CollectorGraph.Suits i.expand ↔ "otel" ∈ i.receiver.capabilities ∧
      ∀ b ∈ i.processors, "otel" ∈ b.processor.capabilities := by
  rw [CollectorGraph.Suits, i.otel_processors_iff, ← and_assoc]
  refine and_congr_left fun _ => ?_
  show "otel" ∈ i.receiver.expanded.1.capabilities ∧ _ ↔ _
  rw [hr]
  exact LogReceiverConfig.otel_expanded_iff config

/-- **An instance for the collector stands for itself:** none of its processors expands, its receiver
brings none along, and the tail into which files expand has their receiver pipeline. -/
theorem LogInstance.expand_of_suits {i : LogInstance} (h : CollectorGraph.Suits i.expand) :
    i.expand.receiver.pipelines? = i.receiver.pipelines? ∧ i.expand.processors = i.processors := by
  obtain ⟨hown, hbound⟩ := i.otel_processors_iff.mp h.2
  have hstay : i.processors.flatMap Binding.expand = i.processors := by
    rw [List.flatMap_congr fun b hb => Binding.expand_of_otel (hbound b hb)]
    exact List.flatMap_singleton' _
  have hreceiver : i.receiver.expanded.2 = [] ∧
      i.receiver.expanded.1.pipelines? = i.receiver.pipelines? := by
    rw [LogReceiver.expanded] at hown ⊢
    cases he : i.receiver.expand? with
    | none => exact ⟨rfl, rfl⟩
    | some e =>
        rw [he] at hown
        unfold LogReceiver.expand? at he
        split at he
        · rename_i s hs
          obtain rfl := Option.some.inj he
          rw [hs]
          exact ⟨rfl, rfl⟩
        · -- the log of an application brings a processor that is not for the collector
          rename_i app s hs
          obtain rfl := Option.some.inj he
          obtain ⟨p, hp, hlacks⟩ := LogProcessor.exists_forApp_lacking app
          exact absurd (hown p hp) hlacks
        · cases he
  refine ⟨hreceiver.2, ?_⟩
  show i.receiver.expanded.2.map _ ++ i.processors.flatMap Binding.expand = i.processors
  rw [hreceiver.1, hstay]
  rfl

end Telemetry
