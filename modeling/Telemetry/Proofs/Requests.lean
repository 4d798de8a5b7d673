import Telemetry.Compile.Collector
import Telemetry.Proofs.Failing

/-!
# What instances ask of the collector

An instance asks for one service pipeline for each receiver pipeline of its receiver. This file says
what such a request amounts to, and what can be relied on for every one of them:

* **`PipelineRequest.Sound`** — it has a name, its receiver yields its signal, and its components
  are of known types.
* **`sound_of_metricsRequests`**, **`sound_of_logRequests`** — the requests of instances are sound.
* **`Serves`** — some requests are those of an instance: one for each receiver pipeline, all with the
  signal, the processors and the exporter type of the instance.
* **`receiver_metricsRequests`**, **`receiver_logRequests`** — no receiver pipeline is left out.
* **`logRequests_eq_ok`**, **`logRequests_refused`** — a logging instance is turned down exactly if
  one of its components is not for the collector, and for such a component.
-/

namespace Telemetry

open Failing

namespace PipelineRequest

variable (r : PipelineRequest)

/-- The processors that belong to the receiver. -/
def own : List Node :=
  (r.receiver.processors.get? r.signal).getD []

/-- The processors of the receiver and behind them those of the pipeline. -/
def nodes : List Node :=
  r.own ++ r.processors

/-- Where the signal is sent. -/
def target : ExporterType :=
  (r.receiver.exporterTypes.get? r.signal).getD r.exporterType

/-- How resource attributes are completed. -/
def mode : ResourceDetection :=
  (r.receiver.resourceDetection.get? r.signal).getD .override

/-- The key of the service pipeline in the document. -/
def key : String :=
  r.signal.name ++ "/" ++ r.name

/-- The types of the receivers for which instances can ask. -/
def receiverTypes : List String := ["filelog", "hostmetrics", "nginx", "otlp"]

/-- The types of the processors for which instances can ask. -/
def processorTypes : List String :=
  ["agentmetrics", "filter", "metricstransform", "normalizesums", "transform"]

/-- A request on which the collector graph can rely. -/
structure Sound : Prop where
  named : r.name ≠ ""
  yields : (r.receiver.processors.get? r.signal).isSome = true
  receiverType : r.receiver.receiver.typeName ∈ receiverTypes
  processorType : ∀ n ∈ r.nodes, n.typeName ∈ processorTypes

end PipelineRequest

namespace CollectorGraph

/-! ## Names and receiver pipelines -/

/-- The name of the service pipeline for one of the receiver pipelines of an instance: the ids of
pipeline and receiver, and a number if there are several. -/
def serviceName (pipeline receiver : String) (count k : Nat) : String :=
  if count = 1 then pipeline ++ "_" ++ receiver
  else pipeline ++ "_" ++ receiver ++ "_" ++ Text.decimal k

/-- Some requests are those of an instance. There is one for each of its receiver pipelines, in their
order and under their names, and each has the signal of the instance, its processors and the exporter
type that it asks for. -/
structure Serves (pipeline receiver : String) (rps : List ReceiverPipeline) (signal : Signal)
    (type : ExporterType) (nodes : List Node) (rs : List PipelineRequest) : Prop where
  receivers : rs.map (·.receiver) = rps
  names : rs.map (·.name) = (List.range rps.length).map (serviceName pipeline receiver rps.length)
  signal : ∀ r ∈ rs, r.signal = signal
  exporterType : ∀ r ∈ rs, r.exporterType = type
  processors : ∀ r ∈ rs, r.processors = nodes

/-- The names are those of the service pipelines, one after the other. -/
theorem pipelineNames_eq (pipeline receiver : String) (count : Nat) :
    pipelineNames pipeline receiver count
      = (List.range count).map (serviceName pipeline receiver count) := by
  rw [pipelineNames]
  split
  · rename_i h
    rw [h]
    rfl
  · rename_i h
    refine List.map_congr_left fun k _ => ?_
    rw [serviceName, if_neg h]

/-- There is one name for each receiver pipeline. -/
theorem length_pipelineNames (pipeline receiver : String) (count : Nat) :
    (pipelineNames pipeline receiver count).length = count := by
  rw [pipelineNames_eq, List.length_map, List.length_range]

/-- No name is empty. -/
theorem ne_empty_of_mem_pipelineNames {pipeline receiver : String} {count : Nat} {name : String}
    (h : name ∈ pipelineNames pipeline receiver count) : name ≠ "" := by
  have hstem : '_' ∈ (pipeline ++ "_" ++ receiver).toList := by simp
  have hname : '_' ∈ name.toList := by
    rw [pipelineNames] at h
    split at h
    · rw [List.mem_singleton.mp h]
      exact hstem
    · obtain ⟨k, -, rfl⟩ := List.mem_map.mp h
      simp
  rintro rfl
  exact nomatch hname

/-- **Receiver pipelines that are asked for under their names** serve their instance. -/
theorem serves_zip (domain : Domain) (pipeline receiver : String) (rps : List ReceiverPipeline)
    (signal : Signal) (type : ExporterType) (nodes : List Node) :
    Serves pipeline receiver rps signal type nodes
      (((pipelineNames pipeline receiver rps.length).zip rps).map fun (name, rp) =>
        ⟨domain, name, signal, type, rp, nodes⟩) := by
  have hl := length_pipelineNames pipeline receiver rps.length
  constructor
  case receivers =>
    rw [List.map_map]
    exact List.map_snd_zip (Nat.le_of_eq hl.symm)
  case names =>
    rw [List.map_map, ← pipelineNames_eq]
    exact List.map_fst_zip (Nat.le_of_eq hl)
  case signal | exporterType | processors =>
    intro r hr
    obtain ⟨_, -, rfl⟩ := List.mem_map.mp hr
    rfl

/-! ## Metrics -/

/-- **What a metrics instance asks for,** with the processors that its pipeline lists. -/
theorem serves_metricsRequests (i : MetricsInstance) :
    Serves i.pipeline i.receiverId i.receiver.pipelines .metrics i.exporterType
      (i.processors.flatMap (·.2.nodes)) (metricsRequests i) :=
  serves_zip _ _ _ _ _ _ _

/-- **A metrics instance asks for all receiver pipelines of its receiver.** -/
theorem receiver_metricsRequests (i : MetricsInstance) :
    (metricsRequests i).map (·.receiver) = i.receiver.pipelines :=
  (serves_metricsRequests i).receivers

/-- The names under which a metrics instance asks. -/
theorem name_metricsRequests (i : MetricsInstance) :
    (metricsRequests i).map (·.name)
      = pipelineNames i.pipeline i.receiverId i.receiver.pipelines.length := by
  rw [pipelineNames_eq]
  exact (serves_metricsRequests i).names

/-- The receiver pipelines for metrics yield metrics and are made of known components. -/
theorem metricsPipeline_sound {receiver : MetricsReceiver} {rp : ReceiverPipeline}
    (h : rp ∈ receiver.pipelines) :
    rp.receiver.typeName ∈ PipelineRequest.receiverTypes ∧
      ∃ own, rp.processors.get? .metrics = some own ∧
        ∀ n ∈ own, n.typeName ∈ PipelineRequest.processorTypes := by
  have hostType : "hostmetrics" ∈ PipelineRequest.receiverTypes := by decide
  have nginxType : "nginx" ∈ PipelineRequest.receiverTypes := by decide
  have otlpType : "otlp" ∈ PipelineRequest.receiverTypes := by decide
  cases receiver with
  | hostmetrics interval =>
      rw [MetricsReceiver.pipelines, List.mem_cons, List.mem_singleton] at h
      rcases h with rfl | rfl
      · refine ⟨hostType, _, rfl, ?_⟩
        simp [PipelineRequest.processorTypes, Node.metricsFilter, Node.renameMetrics,
          Node.addDomain]
      · refine ⟨hostType, _, rfl, ?_⟩
        simp [PipelineRequest.processorTypes, Node.metricsFilter, Node.renameMetrics,
          Node.addDomain]
  | nginx interval url =>
      obtain rfl := List.mem_singleton.mp h
      refine ⟨nginxType, _, rfl, ?_⟩
      simp [PipelineRequest.processorTypes, Node.addDomain]
  | otlp endpoint =>
      obtain rfl := List.mem_singleton.mp h
      refine ⟨otlpType, _, rfl, ?_⟩
      simp

/-- **The requests of metrics instances are sound.** -/
theorem sound_of_metricsRequests {i : MetricsInstance} {r : PipelineRequest}
    (h : r ∈ metricsRequests i) : r.Sound := by
  obtain ⟨⟨name, rp⟩, hz, rfl⟩ := List.mem_map.mp h
  obtain ⟨hname, hrp⟩ := List.of_mem_zip hz
  obtain ⟨htype, own, hown, hnodes⟩ := metricsPipeline_sound hrp
  refine ⟨ne_empty_of_mem_pipelineNames hname, ?_, htype, ?_⟩
  · show (rp.processors.get? .metrics).isSome = true
    rw [hown]
    rfl
  · intro n hn
    rcases List.mem_append.mp hn with hn | hn
    · refine hnodes n ?_
      rw [PipelineRequest.own] at hn
      rwa [hown] at hn
    · obtain ⟨⟨id, processor⟩, -, hn⟩ := List.mem_flatMap.mp hn
      obtain rfl := List.mem_singleton.mp hn
      simp [PipelineRequest.processorTypes, Node.metricsFilter]

/-! ## Logs -/

/-- The components of an instance that is expanded are all for the collector. -/
def Suits (i : LogInstance) : Prop :=
  "otel" ∈ i.receiver.capabilities ∧ ∀ b ∈ i.processors, "otel" ∈ b.processor.capabilities

instance : DecidablePred Suits :=
  fun _ => inferInstanceAs (Decidable (_ ∧ _))

theorem receiver_otel_iff {r : LogReceiver} :
    "otel" ∈ r.capabilities ↔ ∃ rps, r.pipelines? = some rps := by
  rw [← Option.isSome_iff_exists, LogReceiver.capabilities]
  cases r.pipelines?.isSome <;> simp

theorem processor_otel_iff {p : LogProcessor} :
    "otel" ∈ p.capabilities ↔ ∃ nodes, p.nodes? = some nodes := by
  rw [← Option.isSome_iff_exists, LogProcessor.capabilities]
  cases p.nodes?.isSome <;> simp

/-- What a logging instance asks for, with its receiver pipelines and the components of its
processors. -/
theorem logRequests_eq_ok {i : LogInstance} {rs : List PipelineRequest} :
    logRequests i = .ok rs ↔ ∃ rps nodes, i.expand.receiver.pipelines? = some rps ∧
      List.Forall₂ (fun b ns => b.processor.nodes? = some ns) i.expand.processors nodes ∧
      rs = ((pipelineNames i.pipeline i.receiverId rps.length).zip rps).map fun (name, rp) =>
        ⟨.logging, name, .logs, .cloudLogging, rp, nodes.flatten ++ [identityNode i.expand]⟩ := by
  have hreceiver : ∀ rps, receiverPipelines i.expand = .ok rps ↔
      i.expand.receiver.pipelines? = some rps := by
    intro rps
    rw [receiverPipelines]
    cases i.expand.receiver.pipelines? with
    | none => exact ⟨fun h => (nomatch h), fun h => (nomatch h)⟩
    | some rps' =>
        exact ⟨fun h => congrArg some (Except.ok.inj h),
          fun h => congrArg Except.ok (Option.some.inj h)⟩
  have hprocessor : ∀ b ns, processorNodes i.expand b = .ok ns ↔ b.processor.nodes? = some ns := by
    intro b ns
    rw [processorNodes]
    cases b.processor.nodes? with
    | none => exact ⟨fun h => (nomatch h), fun h => (nomatch h)⟩
    | some ns' =>
        exact ⟨fun h => congrArg some (Except.ok.inj h),
          fun h => congrArg Except.ok (Option.some.inj h)⟩
  rw [logRequests, bind_eq_ok]
  constructor
  · rintro ⟨rps, hrps, h⟩
    obtain ⟨nodes, hnodes, h⟩ := bind_eq_ok.mp h
    refine ⟨rps, nodes, (hreceiver rps).mp hrps, ?_, (Except.ok.inj h).symm⟩
    exact (mapM_eq_ok.mp hnodes).imp fun b ns => (hprocessor b ns).mp
  · rintro ⟨rps, nodes, hrps, hnodes, rfl⟩
    refine ⟨rps, (hreceiver rps).mpr hrps, bind_eq_ok.mpr ⟨nodes, mapM_eq_ok.mpr ?_, rfl⟩⟩
    exact hnodes.imp fun b ns => (hprocessor b ns).mpr

/-- An instance asks the collector for something exactly if its components are for the collector. -/
theorem exists_logRequests_iff {i : LogInstance} :
    (∃ rs, logRequests i = .ok rs) ↔ Suits i.expand := by
  simp only [logRequests_eq_ok, Suits, receiver_otel_iff, processor_otel_iff]
  constructor
  · rintro ⟨rs, rps, nodes, hrps, hnodes, -⟩
    refine ⟨⟨rps, hrps⟩, ?_⟩
    intro b hb
    obtain ⟨ns, -, hns⟩ := exists_of_mem_forall₂ hnodes.flip hb
    exact ⟨ns, hns⟩
  · rintro ⟨⟨rps, hrps⟩, hall⟩
    obtain ⟨nodes, hnodes⟩ := exists_forall₂ hall
    exact ⟨_, rps, nodes, hrps, hnodes, rfl⟩

/-- **What an instance is turned down for:** its receiver or one of its processors, as they stand
after the expansion, is not for the collector. The error names it. -/
theorem logRequests_refused (i : LogInstance) : FailsOnly (fun e =>
    ("otel" ∉ i.expand.receiver.capabilities ∧
      e = .missingCapability .logging .receiver i.receiverId i.pipeline "otel") ∨
    ∃ b ∈ i.expand.processors, "otel" ∉ b.processor.capabilities ∧
      e = .missingCapability .logging .processor b.id i.pipeline "otel") (logRequests i) := by
  refine .bind ?_ fun _ _ => .bind (.mapM ?_) fun _ _ => .ok _
  · rw [receiverPipelines]
    split
    · exact .ok _
    · rename_i hnone
      refine .error (.inl ⟨?_, rfl⟩)
      rw [receiver_otel_iff, hnone]
      rintro ⟨rps, hrps⟩
      cases hrps
  · intro b hb
    rw [processorNodes]
    split
    · exact .ok _
    · rename_i hnone
      refine .error (.inr ⟨b, hb, ?_, rfl⟩)
      rw [processor_otel_iff, hnone]
      rintro ⟨nodes, hnodes⟩
      cases hnodes

/-- **What a logging instance asks for,** with the components of its processors and the one that marks
its records. -/
theorem serves_logRequests {i : LogInstance} {rs : List PipelineRequest}
    (h : logRequests i = .ok rs) :
    ∃ rps nodes, i.expand.receiver.pipelines? = some rps ∧
      List.Forall₂ (fun b ns => b.processor.nodes? = some ns) i.expand.processors nodes ∧
      Serves i.pipeline i.receiverId rps .logs .cloudLogging (nodes.flatten ++ [identityNode i]) rs := by
  obtain ⟨rps, nodes, hrps, hnodes, rfl⟩ := logRequests_eq_ok.mp h
  exact ⟨rps, nodes, hrps, hnodes, serves_zip _ _ _ _ _ _ _⟩

/-- **A logging instance asks for all receiver pipelines of its receiver.** -/
theorem receiver_logRequests {i : LogInstance} {rs : List PipelineRequest}
    (h : logRequests i = .ok rs) : i.expand.receiver.pipelines? = some (rs.map (·.receiver)) := by
  obtain ⟨rps, nodes, hrps, -, hserves⟩ := serves_logRequests h
  rw [hrps, hserves.receivers]

/-- The names under which a logging instance asks. -/
theorem name_logRequests {i : LogInstance} {rs : List PipelineRequest}
    (h : logRequests i = .ok rs) :
    rs.map (·.name) = pipelineNames i.pipeline i.receiverId rs.length := by
  obtain ⟨rps, nodes, -, -, hserves⟩ := serves_logRequests h
  rw [pipelineNames_eq, hserves.names, ← hserves.receivers, List.length_map]

/-- The only receivers that the collector has for logs read files. -/
theorem pipelines?_eq_some {r : LogReceiver} {rps : List ReceiverPipeline}
    (h : r.pipelines? = some rps) : ∃ s : FileSource, rps = [s.receiverPipeline] := by
  unfold LogReceiver.pipelines? at h
  split at h
  · exact ⟨_, (Option.some.inj h).symm⟩
  · exact ⟨_, (Option.some.inj h).symm⟩
  · exact nomatch h

/-- The components of a processor run statements. -/
theorem typeName_of_nodes? {p : LogProcessor} {nodes : List Node} (h : p.nodes? = some nodes) :
    ∀ n ∈ nodes, n.typeName = "transform" := by
  unfold LogProcessor.nodes? at h
  split at h
  · obtain rfl := Option.some.inj h
    simp [Node.transform]
  · obtain rfl := Option.some.inj h
    simp [Node.transform]
  · exact nomatch h

/-- **The requests of logging instances are sound.** -/
theorem sound_of_logRequests {i : LogInstance} {rs : List PipelineRequest}
    (h : logRequests i = .ok rs) : ∀ r ∈ rs, r.Sound := by
  obtain ⟨rps, nodes, hrps, hnodes, rfl⟩ := logRequests_eq_ok.mp h
  obtain ⟨s, hs⟩ := pipelines?_eq_some hrps
  intro r hr
  obtain ⟨⟨name, rp⟩, hz, rfl⟩ := List.mem_map.mp hr
  obtain ⟨hname, hrp⟩ := List.of_mem_zip hz
  rw [hs] at hrp
  obtain rfl := List.mem_singleton.mp hrp
  refine ⟨ne_empty_of_mem_pipelineNames hname, rfl, List.mem_cons_self, ?_⟩
  intro n hn
  have htype : n.typeName = "transform" := by
    -- the receiver brings no processors along, so these are those of the pipeline
    have hn : n ∈ nodes.flatten ++ [identityNode i.expand] := hn
    rcases List.mem_append.mp hn with hn | hn
    · obtain ⟨ns, hns, hn⟩ := List.mem_flatten.mp hn
      obtain ⟨b, -, hb⟩ := exists_of_mem_forall₂ hnodes hns
      exact typeName_of_nodes? hb n hn
    · obtain rfl := List.mem_singleton.mp hn
      rfl
  rw [htype]
  decide

/-- Each receiver that the collector can run has a receiver pipeline. -/
theorem pipelines_ne_nil (r : MetricsReceiver) : r.pipelines ≠ [] := by
  cases r <;> exact List.cons_ne_nil _ _

end CollectorGraph

end Telemetry
