import Mathlib.Data.Finset.Card
import Mathlib.Data.List.Forall2
import Telemetry.Proofs.Binding

/-!
# What resolving metrics binds, and where it stops

A metrics pipeline demands that its ids are defined, and besides that all its exporters have one type.
So resolving the metrics pipelines walks over demands of two kinds in one fixed order: pipelines by
id, and of each its exporters, their type, its processors and its receivers.

* **`exporterType_demands`**, **`exporterType_eq_ok`** — choosing the one type of the exporters of a
  pipeline demands that they are defined and then that there is no second type, and chooses cloud
  monitoring where none is listed.
* **`Metrics.resolve_demands`** — resolving makes the demands of all pipelines in order.
* **`Config.metricsInstances_binds`** — so there are instances exactly if all demands are met, they
  are those that the pipelines ask for, and the failure is that of the first demand that is not met.
-/

namespace Telemetry

open Failing

/-! ## Types without repetition -/

section EraseDups

variable {α : Type} [DecidableEq α]

/-- The first occurrences of the members of a list are distinct. -/
theorem nodup_eraseDups : ∀ l : List α, l.eraseDups.Nodup
  | [] => List.nodup_nil
  | a :: l => by
      rw [List.eraseDups_cons]
      exact List.nodup_cons.mpr ⟨by simp, nodup_eraseDups (l.filter fun b => !b == a)⟩
termination_by l => l.length
decreasing_by exact Nat.lt_succ_of_le (List.length_filter_le _ l)

/-- They are as many as the list has different members. -/
theorem length_eraseDups (l : List α) : l.eraseDups.length = l.toFinset.card := by
  rw [← List.toFinset_card_of_nodup (nodup_eraseDups l)]
  congr 1
  ext a
  simp

end EraseDups

/-! ## What the pipelines demand -/

/-- What a metrics pipeline demands. -/
inductive MetricsDemand where
  /-- An id that is listed is defined. -/
  | defined (r : Reference)
  /-- The exporters of a pipeline have no more than one type. -/
  | oneType (pipeline : String) (types : Finset ExporterType)

/-- The failure where a demand is not met. It tells how many types there are. -/
def MetricsDemand.failure : MetricsDemand → CompileError
  | defined r => r.failure
  | oneType pipeline types => .cardinality .metrics
      ("metrics pipeline " ++ Text.quote pipeline ++ " must send to exporters of a single type")
      types.card

/-- A receiver that a metrics pipeline lists. -/
structure MetricsListing where
  pipeline : String
  lists : MetricsPipeline
  receiver : String

namespace Metrics

/-- The types of the exporters that a pipeline lists, as far as they are defined. -/
def exporterTypes (m : Metrics) (p : MetricsPipeline) : Finset ExporterType :=
  (p.exporters.filterMap fun id => (m.exporters.get? id).map (·.exporterType)).toFinset

/-- The references of a pipeline in one of its lists. -/
def referencesIn (id : String) (p : MetricsPipeline) (role : Role) : List MetricsDemand :=
  (p.listed role).map fun ref => .defined ⟨.metrics, role, ref, id⟩

/-- The demands of a pipeline, in the order in which they are looked at. -/
def demandsOf (m : Metrics) (id : String) (p : MetricsPipeline) : List MetricsDemand :=
  referencesIn id p .exporter ++ .oneType id (m.exporterTypes p) ::
    (referencesIn id p .processor ++ referencesIn id p .receiver)

/-- The demands of all pipelines, in the order in which they are looked at. -/
def demands (m : Metrics) : List MetricsDemand :=
  m.pipelines.entries.flatMap fun (id, p) => m.demandsOf id p

/-- All listed receivers, pipelines by id and receivers as each lists them. -/
def listings (m : Metrics) : List MetricsListing :=
  m.pipelines.entries.flatMap fun (id, p) => p.receivers.map fun r => ⟨id, p, r⟩

/-- The domain meets a demand. -/
def Meets (m : Metrics) : MetricsDemand → Prop
  | .defined r => m.Defines r.role r.id
  | .oneType _ types => types.card ≤ 1

/-- An instance is what a listed receiver asks for. -/
structure Binds (m : Metrics) (s : MetricsListing) (i : MetricsInstance) : Prop where
  pipeline : i.pipeline = s.pipeline
  receiverId : i.receiverId = s.receiver
  receiver : m.receivers.get? s.receiver = some i.receiver
  /-- All listed processors, in order and under their ids. -/
  processors : List.Forall₂ (fun id x => x.1 = id ∧ m.processors.get? id = some x.2)
    s.lists.processors i.processors
  /-- The one type of the listed exporters, if there are some. -/
  exporterType : if s.lists.exporters = [] then i.exporterType = .cloudMonitoring
    else m.exporterTypes s.lists = {i.exporterType}

variable {m : Metrics}

/-! ## Each demand of a pipeline -/

/-- What is looked up is the entry of the table. -/
theorem lookUp_eq_ok {α : Type} {table : Keyed α} {role : Role} {pipeline id : String} {a : α} :
    lookUp table role pipeline id = .ok a ↔ table.get? id = some a := by
  rw [lookUp]
  cases table.get? id with
  | some b =>
      constructor <;> intro h
      · rw [Except.ok.inj h]
      · exact congrArg Except.ok (Option.some.inj h)
  | none =>
      constructor <;> intro h <;> cases h

/-- To look an id up is to demand that it is defined. -/
theorem lookUp_demands {α : Type} {table : Keyed α} {role : Role} (pipeline id : String)
    (hrole : m.Defines role id ↔ id ∈ table.keys) :
    Demands MetricsDemand.failure m.Meets [.defined ⟨.metrics, role, id, pipeline⟩]
      (lookUp table role pipeline id) := by
  refine .single ?_ ?_
  · intro h
    obtain ⟨a, ha⟩ := Keyed.mem_keys_iff.mp (hrole.mp h)
    exact ⟨a, lookUp_eq_ok.mpr ha⟩
  · intro h
    rw [lookUp, Keyed.not_mem_keys_iff.mp fun hid => h (hrole.mpr hid)]
    rfl

/-- To look up all ids that a pipeline lists in a role is to demand that they are defined. -/
theorem mapM_lookUp_demands {α β : Type} {table : Keyed α} {role : Role} (id : String)
    (p : MetricsPipeline) (hrole : ∀ ref, m.Defines role ref ↔ ref ∈ table.keys)
    (f : String → α → β) :
    Demands MetricsDemand.failure m.Meets (referencesIn id p role)
      ((p.listed role).mapM fun ref => lookUp table role id ref >>= fun a => pure (f ref a)) := by
  rw [referencesIn, List.map_eq_flatMap]
  exact .mapM fun ref _ => (lookUp_demands id ref (hrole ref)).bind_ok fun _ => ⟨_, rfl⟩

/-! ## The type of the exporters -/

/-- The types of exporters that were looked up. -/
theorem toFinset_types {id : String} {p : MetricsPipeline} {es : List MetricsExporter}
    (h : p.exporters.mapM (lookUp m.exporters .exporter id) = .ok es) :
    (es.map (·.exporterType)).toFinset = m.exporterTypes p := by
  have hlists : ∀ {ids : List String} {es : List MetricsExporter},
      List.Forall₂ (fun ref e => lookUp m.exporters .exporter id ref = .ok e) ids es →
      ids.filterMap (fun ref => (m.exporters.get? ref).map (·.exporterType))
        = es.map (·.exporterType) := by
    intro ids es hes
    induction hes with
    | nil => rfl
    | cons he _ ih =>
        rw [List.filterMap_cons, lookUp_eq_ok.mp he]
        exact congrArg _ ih
  rw [exporterTypes, hlists (mapM_eq_ok.mp h)]

/-- **Choosing the type of the exporters** demands that they are defined, and behind that that they
have no more than one type. -/
theorem exporterType_demands (m : Metrics) (id : String) (p : MetricsPipeline) :
    Demands MetricsDemand.failure m.Meets
      (referencesIn id p .exporter ++ [.oneType id (m.exporterTypes p)])
      (m.exporterType id p.exporters) := by
  rw [exporterType]
  refine Demands.bind ?_ ?_
  · rw [referencesIn, List.map_eq_flatMap]
    exact .mapM fun ref _ => lookUp_demands id ref Iff.rfl
  intro es hes
  rw [← toFinset_types hes]
  -- as many types as are left when repetitions are erased
  have hcount := length_eraseDups (es.map (·.exporterType))
  cases htypes : (es.map (·.exporterType)).eraseDups with
  | nil =>
      rw [htypes] at hcount
      refine .inl ⟨?_, _, rfl⟩
      show (es.map (·.exporterType)).toFinset.card ≤ 1
      exact hcount ▸ Nat.zero_le 1
  | cons t ts =>
      rw [htypes] at hcount
      cases ts with
      | nil =>
          refine .inl ⟨?_, _, rfl⟩
          show (es.map (·.exporterType)).toFinset.card ≤ 1
          exact hcount ▸ le_refl 1
      | cons t' ts =>
          refine .inr ⟨?_, ?_⟩
          · show ¬ (es.map (·.exporterType)).toFinset.card ≤ 1
            rw [← hcount, List.length_cons, List.length_cons]
            omega
          · rw [MetricsDemand.failure, ← hcount]
            rfl

/-- The type that is chosen is the one that the exporters have, or cloud monitoring. -/
theorem exporterType_eq_ok {id : String} {p : MetricsPipeline} {t : ExporterType}
    (h : m.exporterType id p.exporters = .ok t) :
    if p.exporters = [] then t = .cloudMonitoring else m.exporterTypes p = {t} := by
  rw [exporterType] at h
  obtain ⟨es, hes, h⟩ := bind_eq_ok.mp h
  have hlength : p.exporters.length = es.length := (mapM_eq_ok.mp hes).length_eq
  rw [← toFinset_types hes]
  cases es with
  | nil =>
      rw [if_pos (List.eq_nil_of_length_eq_zero hlength)]
      exact (Except.ok.inj h).symm
  | cons e es =>
      rw [if_neg (List.ne_nil_of_length_eq_add_one hlength)]
      rw [List.map_cons, List.eraseDups_cons] at h
      -- a second type is what is left when the first one is erased
      cases hrest : ((es.map (·.exporterType)).filter fun b => !b == e.exporterType).eraseDups with
      | nil =>
          rw [hrest] at h
          obtain rfl : e.exporterType = t := Except.ok.inj h
          ext t'
          rw [List.mem_toFinset, List.map_cons, ← List.mem_eraseDups, List.eraseDups_cons, hrest,
            List.mem_singleton, Finset.mem_singleton]
      | cons t' ts =>
          rw [hrest] at h
          exact nomatch h

/-! ## One pipeline -/

/-- **The instances of a pipeline make its demands:** on its exporters, on their type, on its
processors and on its receivers. -/
theorem instancesOf_demands (m : Metrics) (id : String) (p : MetricsPipeline) :
    Demands MetricsDemand.failure m.Meets (m.demandsOf id p) (m.instancesOf id p) := by
  rw [demandsOf, List.append_cons, instancesOf]
  refine (exporterType_demands m id p).bind fun t _ => ?_
  refine (mapM_lookUp_demands id p (fun _ => Iff.rfl) Prod.mk).bind fun processors _ => ?_
  exact mapM_lookUp_demands id p (fun _ => Iff.rfl) fun receiverId receiver =>
    (⟨id, receiverId, receiver, processors, t⟩ : MetricsInstance)

/-- The instances of a pipeline are what its listed receivers ask for. -/
theorem binds_of_instancesOf {id : String} {p : MetricsPipeline} {is : List MetricsInstance}
    (h : m.instancesOf id p = .ok is) :
    List.Forall₂ m.Binds (p.receivers.map fun r => ⟨id, p, r⟩) is := by
  obtain ⟨t, ht, h⟩ := bind_eq_ok.mp h
  obtain ⟨processors, hprocessors, h⟩ := bind_eq_ok.mp h
  rw [List.forall₂_map_left_iff]
  refine (mapM_eq_ok.mp h).imp ?_
  intro receiverId i hi
  obtain ⟨receiver, hreceiver, hi⟩ := bind_eq_ok.mp hi
  obtain rfl := Except.ok.inj hi
  refine ⟨rfl, rfl, lookUp_eq_ok.mp hreceiver, ?_, exporterType_eq_ok ht⟩
  -- the processors are bound once, whatever the receiver
  refine (mapM_eq_ok.mp hprocessors).imp ?_
  intro ref x hx
  obtain ⟨processor, hprocessor, hx⟩ := bind_eq_ok.mp hx
  obtain rfl := Except.ok.inj hx
  exact ⟨rfl, lookUp_eq_ok.mp hprocessor⟩

/-- A listing asks for one instance. -/
theorem Binds.unique {s : MetricsListing} {i j : MetricsInstance} (hi : m.Binds s i)
    (hj : m.Binds s j) : i = j := by
  have hprocessors : i.processors = j.processors := by
    refine List.right_unique_forall₂' ?_ hi.processors hj.processors
    rintro id ⟨_, a⟩ ⟨_, b⟩ ⟨rfl, ha⟩ ⟨hid, hb⟩
    obtain rfl := hid
    obtain rfl : a = b := Option.some.inj (ha.symm.trans hb)
    rfl
  have htype : i.exporterType = j.exporterType := by
    have hit := hi.exporterType
    have hjt := hj.exporterType
    split at hit
    · rw [if_pos ‹_›] at hjt
      exact hit.trans hjt.symm
    · rw [if_neg ‹_›] at hjt
      exact Finset.singleton_injective (hit.symm.trans hjt)
  cases i
  cases j
  rw [MetricsInstance.mk.injEq]
  exact ⟨hi.pipeline.trans hj.pipeline.symm, hi.receiverId.trans hj.receiverId.symm,
    Option.some.inj (hi.receiver.symm.trans hj.receiver), hprocessors, htype⟩

/-! ## All pipelines -/

/-- Resolving a domain without reserved ids is to bind its pipelines one after another. -/
theorem resolve_eq (hids : m.checkIds = .ok ()) :
    m.resolve = m.pipelines.entries.mapM (fun (id, p) => m.instancesOf id p) >>=
      fun parts => .ok parts.flatten := by
  rw [resolve, hids]
  rfl

/-- **Resolving makes the demands of all pipelines** in order. -/
theorem resolve_demands (hids : m.checkIds = .ok ()) :
    Demands MetricsDemand.failure m.Meets m.demands m.resolve := by
  rw [resolve_eq hids]
  exact (Demands.mapM fun (id, p) _ => m.instancesOf_demands id p).bind_ok fun _ => ⟨_, rfl⟩

/-- The instances of a domain are what all listed receivers ask for. -/
theorem binds_of_resolve (hids : m.checkIds = .ok ()) {is : List MetricsInstance}
    (h : m.resolve = .ok is) : List.Forall₂ m.Binds m.listings is := by
  rw [resolve_eq hids] at h
  obtain ⟨parts, hparts, h⟩ := bind_eq_ok.mp h
  obtain rfl := Except.ok.inj h
  rw [listings, List.flatMap_def]
  refine List.rel_flatten ?_
  rw [List.forall₂_map_left_iff]
  exact (mapM_eq_ok.mp hparts).imp fun _ _ hpart => binds_of_instancesOf hpart

/-- All demands are met if in each pipeline all ids are defined and the exporters have one type. -/
theorem forall_demands_iff :
    (∀ d ∈ m.demands, m.Meets d) ↔
      ∀ id p, m.pipelines.get? id = some p →
        (∀ role, ∀ ref ∈ p.listed role, m.Defines role ref) ∧ (m.exporterTypes p).card ≤ 1 := by
  have hrole : ∀ {id p role}, (∀ d ∈ referencesIn id p role, m.Meets d) ↔
      ∀ ref ∈ p.listed role, m.Defines role ref := List.forall_mem_map
  have hpipeline : ∀ id p, (∀ d ∈ m.demandsOf id p, m.Meets d) ↔
      (∀ role, ∀ ref ∈ p.listed role, m.Defines role ref) ∧ (m.exporterTypes p).card ≤ 1 := by
    intro id p
    rw [demandsOf, List.forall_mem_append, List.forall_mem_cons, List.forall_mem_append, hrole,
      hrole, hrole]
    constructor
    · rintro ⟨hexporters, htype, hprocessors, hreceivers⟩
      refine ⟨?_, htype⟩
      intro role
      cases role with
      | exporter => exact hexporters
      | processor => exact hprocessors
      | receiver => exact hreceivers
      | pipeline => exact fun _ href => nomatch href
      | service => exact fun _ href => nomatch href
    · rintro ⟨hdefined, htype⟩
      exact ⟨hdefined .exporter, htype, hdefined .processor, hdefined .receiver⟩
  constructor
  · intro h id p hp
    refine (hpipeline id p).mp fun d hd => h d ?_
    exact List.mem_flatMap.mpr ⟨(id, p), Keyed.mem_entries_iff.mpr hp, hd⟩
  · intro h d hd
    obtain ⟨⟨id, p⟩, hp, hd⟩ := List.mem_flatMap.mp hd
    exact (hpipeline id p).mpr (h id p (Keyed.mem_entries_iff.mp hp)) d hd

end Metrics

/-! ## The instances of a configuration -/

namespace Config

variable {c : Config}

/-- All demands of the metrics pipelines, in the order in which they are looked at. -/
def metricsDemands (c : Config) : List MetricsDemand :=
  c.metrics.elim [] (·.demands)

/-- All receivers that the metrics pipelines list, in order. -/
def metricsListings (c : Config) : List MetricsListing :=
  c.metrics.elim [] (·.listings)

/-- A demand of a metrics pipeline is met in the configuration. -/
def MeetsDemand (c : Config) (d : MetricsDemand) : Prop :=
  ∃ m, c.metrics = some m ∧ m.Meets d

/-- An instance is what a listed receiver of the metrics pipelines asks for. -/
def BindsMetrics (c : Config) (s : MetricsListing) (i : MetricsInstance) : Prop :=
  ∃ m, c.metrics = some m ∧ m.Binds s i

section Metrics

variable {m : Metrics} (hm : c.metrics = some m)
include hm

/-- With metrics pipelines, they decide what is met. -/
theorem meetsDemand_iff (d : MetricsDemand) : c.MeetsDemand d ↔ m.Meets d := by
  rw [MeetsDemand, hm]
  simp

/-- With metrics pipelines, they decide what is asked for. -/
theorem bindsMetrics_iff (s : MetricsListing) (i : MetricsInstance) :
    c.BindsMetrics s i ↔ m.Binds s i := by
  rw [BindsMetrics, hm]
  simp

end Metrics

/-- **Resolving makes the demands of the metrics pipelines** in order. -/
theorem metricsInstances_demands (hc : c.check = .ok ()) :
    Demands MetricsDemand.failure c.MeetsDemand c.metricsDemands c.metricsInstances := by
  rw [metricsDemands, metricsInstances]
  cases hm : c.metrics with
  | none => exact ⟨[], rfl⟩
  | some m =>
      exact (Metrics.resolve_demands (metrics_checkIds hc hm)).congr fun d _ => meetsDemand_iff hm d

/-- All demands are met if in each pipeline all ids are defined and the exporters have one type. -/
theorem forall_metricsDemands_iff :
    (∀ d ∈ c.metricsDemands, c.MeetsDemand d) ↔
      ∀ m id p, c.metrics = some m → m.pipelines.get? id = some p →
        (∀ role, ∀ ref ∈ p.listed role, m.Defines role ref) ∧ (m.exporterTypes p).card ≤ 1 := by
  rw [metricsDemands]
  cases hm : c.metrics with
  | none => exact iff_of_true (List.forall_mem_nil _) (fun m id p h => by cases h)
  | some m =>
      simp only [Option.elim_some, meetsDemand_iff hm]
      rw [Metrics.forall_demands_iff]
      constructor
      · intro h m' id p hm' hp
        obtain rfl := Option.some.inj hm'
        exact h id p hp
      · intro h id p hp
        exact h m id p rfl hp

/-- The instances of a configuration are what the listed receivers ask for. -/
theorem binds_of_metricsInstances (hc : c.check = .ok ()) {is : List MetricsInstance}
    (h : c.metricsInstances = .ok is) : List.Forall₂ c.BindsMetrics c.metricsListings is := by
  rw [metricsInstances] at h
  rw [metricsListings]
  cases hm : c.metrics with
  | none =>
      rw [hm] at h
      obtain rfl := Except.ok.inj h
      exact .nil
  | some m =>
      rw [hm] at h
      exact (Metrics.binds_of_resolve (metrics_checkIds hc hm) h).imp
        fun s i hi => (bindsMetrics_iff hm s i).mpr hi

/-- A listing asks for one instance. -/
theorem BindsMetrics.unique {s : MetricsListing} {i j : MetricsInstance} (hi : c.BindsMetrics s i)
    (hj : c.BindsMetrics s j) : i = j := by
  obtain ⟨m, hm, hi⟩ := hi
  exact hi.unique ((bindsMetrics_iff hm s j).mp hj)

/-- **Resolving binds exactly what the metrics pipelines ask for.** For an accepted configuration:

* There are instances if and only if every id that a pipeline lists is defined, and the exporters of
  each pipeline have at most one type.
* They are then the only list with one instance for each listed receiver, pipelines by id and
  receivers as listed, bound to what it asks for: all listed processors in order, and the one type
  of the listed exporters, or cloud monitoring if none is listed.
* Otherwise the failure is that of the first demand that is not met, where a pipeline demands that
  its exporters are defined, that they have one type, and that its processors and its receivers are
  defined, in this order. -/
theorem metricsInstances_binds (hc : c.check = .ok ()) :
    ((∃ is, c.metricsInstances = .ok is) ↔
      ∀ m id p, c.metrics = some m → m.pipelines.get? id = some p →
        (∀ role, ∀ ref ∈ p.listed role, m.Defines role ref) ∧ (m.exporterTypes p).card ≤ 1) ∧
    (∀ is, c.metricsInstances = .ok is →
      ∀ is', List.Forall₂ c.BindsMetrics c.metricsListings is' ↔ is' = is) ∧
    ∀ e, c.metricsInstances = .error e ↔
      ∃ before d after, c.metricsDemands = before ++ d :: after ∧
        (∀ d' ∈ before, c.MeetsDemand d') ∧ ¬ c.MeetsDemand d ∧ e = d.failure := by
  have hdemands := metricsInstances_demands hc
  refine ⟨?_, ?_, ?_⟩
  · rw [hdemands.exists_ok_iff, forall_metricsDemands_iff]
  · intro is h is'
    have hbinds := binds_of_metricsInstances hc h
    constructor
    · intro h'
      -- a listing asks for one instance only
      exact List.right_unique_forall₂' (fun _ _ _ hi hj => hi.unique hj) h' hbinds
    · rintro rfl
      exact hbinds
  · intro e
    exact hdemands.eq_error_iff

/-- The exporters of a pipeline are looked at before its processors, and two types among them decide
before a processor without a definition does. -/
example : failure? (metricsInstances {
    metrics := some {
      exporters := .ofList [("a", .googleCloudMonitoring), ("b", .googleManagedPrometheus)]
      pipelines := .ofList [("p", { processors := ["nope"], exporters := ["a", "b", "a"] })] } })
    = some (.cardinality .metrics
        "metrics pipeline \"p\" must send to exporters of a single type" 2) := by
  rfl

end Config

/-- Metrics pipelines with and without exporters, and with a receiver that both list. -/
def boundMetrics : Config where
  metrics := some {
    receivers := .ofList [("host", .hostmetrics none), ("web", .nginx none none)]
    processors := .ofList [("drop", .excludeMetrics ["agent.googleapis.com/cpu/*"])]
    exporters := .ofList [("a", .googleManagedPrometheus), ("b", .googleManagedPrometheus)]
    pipelines := .ofList [
      ("q", { receivers := ["host"] }),
      ("p", { receivers := ["web", "host"], processors := ["drop", "drop"],
              exporters := ["b", "a"] })] }

/-- The pipelines of `boundMetrics` by id, each with its receivers as it lists them. -/
theorem Config.metricsInstances_binds_boundMetrics : boundMetrics.check = .ok () ∧
    boundMetrics.metricsListings.map (fun s => (s.pipeline, s.receiver))
      = [("p", "web"), ("p", "host"), ("q", "host")] ∧
    ∃ is, boundMetrics.metricsInstances = .ok is ∧
      is.map (·.exporterType) = [.managedPrometheus, .managedPrometheus, .cloudMonitoring] ∧
      ∀ is', List.Forall₂ boundMetrics.BindsMetrics boundMetrics.metricsListings is' ↔ is' = is := by
  have hc : boundMetrics.check = .ok () := rfl
  have htypes : boundMetrics.metricsInstances.map (fun is => is.map (·.exporterType))
      = .ok [.managedPrometheus, .managedPrometheus, .cloudMonitoring] := by
    rfl
  obtain ⟨is, his, htypes⟩ := map_eq_ok.mp htypes
  exact ⟨hc, rfl, is, his, htypes, (Config.metricsInstances_binds hc).2.1 is his⟩

end Telemetry
