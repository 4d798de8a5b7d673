import Telemetry.Proofs.Components
import Telemetry.Proofs.Document
import Telemetry.Proofs.Run

/-!
# How a compilation for the collector ends

A configuration whose references are all defined asks for service pipelines under names that join
ids. Either these names are distinct, and there is a file with all that was asked for, or the
configuration is refused because they are not.

* **`ServesMetrics`**, **`ServesLogs`** — the service pipelines that an instance is to have.
* **`compile_closed`** — the document that is written has these service pipelines of all instances,
  each with its own components, and nothing else.
* **`compile_outcome`** — the serialiser never refuses what was put together, no instance is left
  out, and where all components are for the collector only a name that comes twice is refused.
-/

namespace Telemetry

open Failing

namespace CollectorGraph

variable {c : Config} {p : Platform} {o : CompileOptions} {ms : List MetricsInstance}
  {ls : List LogInstance} {rss : List (List PipelineRequest)}

/-! ## The document that is written -/

/-- What is asked for under distinct names is written. -/
theorem compile_of_hold {parts : Parts} {rs : List PipelineRequest}
    (hb : build c p o = .ok (ofParts c p o parts)) (h : parts.Hold rs) (hs : ∀ r ∈ rs, r.Sound) :
    ∃ doc, compile c p o = .ok (.ofList [(Graph.fileName, Yaml.write doc)]) ∧ Closed p rs doc := by
  obtain ⟨doc, hdoc, hclosed⟩ := document_closed (c := c) (p := p) (o := o) h hs
  refine ⟨doc, ?_, hclosed⟩
  have hwrite : (ofParts c p o parts).write = .ok (Yaml.write doc) :=
    bind_eq_ok.mpr ⟨doc, hdoc, rfl⟩
  exact bind_eq_ok.mpr ⟨_, hb, bind_eq_ok.mpr ⟨_, mapError_eq_ok.mpr hwrite, rfl⟩⟩

/-- What is written is what the instances ask for. -/
theorem requested_of_compile {files : Files} (h : compile c p o = .ok files) :
    ∃ ms ls rss doc, Requested c ms ls rss ∧
      files = .ofList [(Graph.fileName, Yaml.write doc)] ∧ Closed p (requests ms rss) doc := by
  obtain ⟨g, hg, -⟩ := bind_eq_ok.mp h
  obtain ⟨ms, ls, rss, parts, hreq, hparts, rfl⟩ := build_eq_ok hg
  obtain ⟨doc, hdoc, hclosed⟩ := compile_of_hold hg hparts hreq.sound
  rw [hdoc] at h
  exact ⟨ms, ls, rss, doc, hreq, (Except.ok.inj h).symm, hclosed⟩

/-- Some service pipelines are those of a metrics instance. They have the components of the processors
that its pipeline lists, in order, and send to the exporter type of the pipeline. -/
def ServesMetrics (i : MetricsInstance) (rs : List PipelineRequest) : Prop :=
  Serves i.pipeline i.receiverId i.receiver.pipelines .metrics i.exporterType
    (i.processors.flatMap (·.2.nodes)) rs

/-- Some service pipelines are those of a logging instance. They have the components of the processors
that its pipeline lists, in order, and behind them the one that marks its records. -/
def ServesLogs (i : LogInstance) (rs : List PipelineRequest) : Prop :=
  ∃ rps nodes, i.receiver.pipelines? = some rps ∧
    List.Forall₂ (fun b ns => b.processor.nodes? = some ns) i.processors nodes ∧
    Serves i.pipeline i.receiverId rps .logs .cloudLogging (nodes.flatten ++ [identityNode i]) rs

/-- What a logging instance asks for serves it as it was resolved, before anything is expanded. -/
theorem servesLogs_of_logRequests {i : LogInstance} {rs : List PipelineRequest}
    (h : logRequests i = .ok rs) : ServesLogs i rs := by
  obtain ⟨hpipelines, hprocessors⟩ := LogInstance.expand_of_suits (exists_logRequests_iff.mp ⟨rs, h⟩)
  obtain ⟨rps, nodes, hrps, hnodes, hserves⟩ := serves_logRequests h
  rw [hpipelines] at hrps
  rw [hprocessors] at hnodes
  exact ⟨rps, nodes, hrps, hnodes, hserves⟩

/-- **The document is closed, and nothing in it is overwritten.** Its service pipelines are those of
the resolved instances, one for each receiver pipeline of their receivers. Each names a receiver,
processors and an exporter that are defined with their own settings, no two of these components
share a name, and nothing is defined that no pipeline names. -/
theorem compile_closed {files : Files} (h : compile c p o = .ok files) :
    ∃ ms ls mss lss doc, c.metricsInstances = .ok ms ∧ c.logInstances .collector = .ok ls ∧
      List.Forall₂ ServesMetrics ms mss ∧ List.Forall₂ ServesLogs ls lss ∧
      files = .ofList [(Graph.fileName, Yaml.write doc)] ∧
      Closed p (mss.flatten ++ lss.flatten) doc := by
  obtain ⟨ms, ls, lss, doc, hreq, hfiles, hclosed⟩ := requested_of_compile h
  refine ⟨ms, ls, ms.map metricsRequests, lss, doc, hreq.metrics, hreq.logs, ?_, ?_, hfiles, ?_⟩
  · rw [List.forall₂_map_right_iff, List.forall₂_same]
    exact fun i _ => serves_metricsRequests i
  · exact hreq.each.imp fun _ _ => servesLogs_of_logRequests
  · rwa [requests, List.flatMap_def] at hclosed

/-- Host metrics, sent metrics and files, under ids that look like parts of other names. -/
def sharedNames : Config where
  logging := some {
    receivers := .ofList [("b_0", .files { includePaths := ["/a.log"] })]
    processors := .ofList [("json", .parseJson {})]
    pipelines := .ofList [
      ("a", { receivers := ["b_0"], processors := ["json"], engine := .collector })] }
  metrics := some {
    receivers := .ofList [("b", .hostmetrics none), ("a/b", .otlp none)]
    processors := .ofList [("drop", .excludeMetrics ["agent.googleapis.com/cpu/*"])]
    exporters := .ofList [("own", .googleManagedPrometheus)]
    pipelines := .ofList [
      ("a_a", { receivers := ["b", "a/b"], processors := ["drop"], exporters := ["own"] })] }

/-- In the document for `sharedNames`, the second service pipeline for the host has the processors of
its receiver, the one that its pipeline lists and the one for resource attributes, and sends to the
exporter of its pipeline. -/
theorem compile_closed_sharedNames :
    ∃ files, compile sharedNames samplePlatform {} = .ok files ∧
      ∃ ms ls mss lss doc, sharedNames.metricsInstances = .ok ms ∧
        sharedNames.logInstances .collector = .ok ls ∧
        List.Forall₂ ServesMetrics ms mss ∧ List.Forall₂ ServesLogs ls lss ∧
        files = .ofList [(Graph.fileName, Yaml.write doc)] ∧
        Closed samplePlatform (mss.flatten ++ lss.flatten) doc ∧
        doc.at? ["service", "pipelines", "metrics/a_a_b_1"] = some (.table [
          ("receivers", .texts ["hostmetrics/a_a_b_1"]),
          ("processors", .texts ["filter/a_a_b_1_0", "metricstransform/a_a_b_1_1",
            "metricstransform/a_a_b_1_2", "filter/a_a_b_1_3", "resourcedetection/_global_0"]),
          ("exporters", .texts ["googlemanagedprometheus"])]) ∧
        doc.at? ["processors", "filter/a_a_b_1_3"]
          = some (Node.metricsFilter "exclude" "regexp"
              [Pattern.ofGlob "agent.googleapis.com/cpu/*"]).config := by
  obtain ⟨files, h⟩ : ∃ files, compile sharedNames samplePlatform {} = .ok files :=
    exists_of_isOk rfl
  obtain ⟨ms, ls, mss, lss, doc, hms, hls, hmss, hlss, hfiles, hclosed⟩ := compile_closed h
  have hhost : sharedNames.metricsInstances.map (·.head?) = .ok (some
      ⟨"a_a", "b", .hostmetrics none, [("drop", .excludeMetrics ["agent.googleapis.com/cpu/*"])],
        .managedPrometheus⟩) := by
    rfl
  obtain ⟨rest, rfl⟩ := List.head?_eq_some_iff.mp (eq_of_map_eq_ok hms hhost)
  obtain ⟨rs, mss', hserves, -, rfl⟩ := List.forall₂_cons_left_iff.mp hmss
  -- the host has two receiver pipelines, and this is the second
  obtain ⟨r₀, rs', rfl, -, hreceivers⟩ := List.map_eq_cons_iff.mp hserves.receivers
  obtain ⟨r, rs'', rfl, hreceiver, -⟩ := List.map_eq_cons_iff.mp hreceivers
  have hname : r.name = "a_a_b_1" := (List.cons.inj (List.cons.inj hserves.names).2).1
  have hr : r ∈ r₀ :: r :: rs'' := List.mem_cons_of_mem _ List.mem_cons_self
  have hsignal := hserves.signal r hr
  have htype := hserves.exporterType r hr
  have hprocessors := hserves.processors r hr
  have hmem : r ∈ ((r₀ :: r :: rs'') :: mss').flatten ++ lss.flatten := by simp
  obtain ⟨domain, name, signal, type, receiver, processors⟩ := r
  subst hname hsignal htype hreceiver hprocessors
  have hdefined := (List.forall₂_iff_get.mp (hclosed.processors _ hmem)).2 3
  have hlength : 3 < 5 := by decide
  exact ⟨files, h, _, ls, _, lss, doc, hms, hls, hmss, hlss, hfiles, hclosed,
    hclosed.entry _ hmem, hdefined hlength hlength⟩

/-! ## Why there is no file -/

/-- A failure that is not the program's own. -/
def Blames (e : CompileError) : Prop :=
  e.isInternal = false

theorem checkReserved_failsOnly (domain : Domain) (role : Role) (ids : List String) :
    FailsOnly Blames (checkReserved domain role ids) := by
  rw [checkReserved]
  split
  · exact .error rfl
  · exact .ok ()

theorem lookUp_failsOnly {α : Type} (table : Keyed α) (role : Role) (pipeline id : String) :
    FailsOnly Blames (Metrics.lookUp table role pipeline id) := by
  rw [Metrics.lookUp]
  split
  · exact .ok _
  · exact .error rfl

theorem exporterType_failsOnly (m : Metrics) (pipeline : String) (listed : List String) :
    FailsOnly Blames (m.exporterType pipeline listed) := by
  refine .bind (.mapM fun id _ => lookUp_failsOnly _ _ _ id) ?_
  intro exporters _
  split
  · exact .ok _
  · exact .ok _
  · exact .error rfl

/-- Metrics instances are not resolved for reasons that lie in the configuration. -/
theorem metricsInstances_failsOnly (c : Config) : FailsOnly Blames c.metricsInstances := by
  rw [Config.metricsInstances]
  split
  · rename_i m _
    refine .bind ?_ fun _ _ => .bind (.mapM ?_) fun _ _ => .ok _
    · exact .bind (checkReserved_failsOnly _ _ _) fun _ _ => .bind (checkReserved_failsOnly _ _ _)
        fun _ _ => .bind (checkReserved_failsOnly _ _ _) fun _ _ => checkReserved_failsOnly _ _ _
    · rintro ⟨id, pipeline⟩ -
      refine .bind (exporterType_failsOnly _ _ _) fun _ _ => .bind (.mapM ?_) fun _ _ => .mapM ?_
      · exact fun _ _ => .bind (lookUp_failsOnly _ _ _ _) fun _ _ => .ok _
      · exact fun _ _ => .bind (lookUp_failsOnly _ _ _ _) fun _ _ => .ok _
  · exact .ok _

/-- Logging instances are not resolved for reasons that lie in the configuration. -/
theorem logInstances_failsOnly (c : Config) (engine : LogEngine) :
    FailsOnly Blames (c.logInstances engine) := by
  rw [Config.logInstances]
  split
  · rename_i l _
    refine .bind ?_ fun _ _ => .bind (.mapM ?_) fun _ _ => .bind ?_ fun _ _ => .ok _
    · exact .bind (checkReserved_failsOnly _ _ _) fun _ _ => .bind (checkReserved_failsOnly _ _ _)
        fun _ _ => .bind (checkReserved_failsOnly _ _ _) fun _ _ => checkReserved_failsOnly _ _ _
    · rintro ⟨id, pipeline⟩ - e he
      obtain ⟨role, ref, rfl⟩ := Logging.instancesOf_eq_error he
      rfl
    · intro e he
      obtain ⟨tag, p, r, p', r', rfl⟩ := Logging.checkTags_eq_error he
      rfl
  · exact .ok _

/-- What a logging instance asks for is refused for a component that is not for the collector. -/
theorem logRequests_failsOnly (i : LogInstance) : FailsOnly Blames (logRequests i) := by
  refine (logRequests_refused i).imp ?_
  rintro e (⟨-, rfl⟩ | ⟨b, -, -, rfl⟩)
  · rfl
  · rfl

theorem add_failsOnly (parts : Parts) (r : PipelineRequest) : FailsOnly Blames (parts.add r) := by
  rw [Parts.add]
  split
  · exact .error rfl
  · exact .ok _

/-- A graph is not built for reasons that lie in the configuration. -/
theorem build_failsOnly (c : Config) (p : Platform) (o : CompileOptions) :
    FailsOnly Blames (build c p o) := by
  refine .bind (metricsInstances_failsOnly c) fun ms _ => .bind (.foldlM ?_ _) fun parts _ =>
    .bind (logInstances_failsOnly c _) fun ls _ => .bind (.foldlM ?_ _) fun _ _ => .ok _
  · exact fun parts i _ => .foldlM (fun parts r _ => add_failsOnly parts r) parts
  · exact fun parts i _ => .bind (logRequests_failsOnly i) fun _ _ =>
      .foldlM (fun parts r _ => add_failsOnly parts r) parts

/-- **The serialiser never refuses a graph that was built.** Only building fails. -/
theorem compile_failsOnly (c : Config) (p : Platform) (o : CompileOptions) :
    FailsOnly Blames (compile c p o) := by
  refine .bind (build_failsOnly c p o) ?_
  intro g hg
  obtain ⟨ms, ls, rss, parts, hreq, hparts, rfl⟩ := build_eq_ok hg
  obtain ⟨doc, hdoc, -⟩ := compile_of_hold hg hparts hreq.sound
  obtain ⟨_, hg', h⟩ := bind_eq_ok.mp hdoc
  rw [hg] at hg'
  obtain rfl := Except.ok.inj hg'
  rw [h]
  exact .ok _

/-! ## The names of service pipelines -/

/-- The names of the service pipelines of a metrics instance. -/
def metricsNames (i : MetricsInstance) : List String :=
  pipelineNames i.pipeline i.receiverId i.receiver.pipelines.length

/-- The names of the service pipelines of a logging instance. -/
def logNames (i : LogInstance) : List String :=
  pipelineNames i.pipeline i.receiverId (i.expand.receiver.pipelines?.getD []).length

/-- The names that are made for all instances, over both domains. -/
def generatedNames (ms : List MetricsInstance) (ls : List LogInstance) : List String :=
  ms.flatMap metricsNames ++ ls.flatMap logNames

theorem pipelineNames_ne_nil {pipeline receiver : String} {rps : List ReceiverPipeline}
    (h : rps ≠ []) : pipelineNames pipeline receiver rps.length ≠ [] := by
  intro hnil
  have hl := length_pipelineNames pipeline receiver rps.length
  rw [hnil] at hl
  exact h (List.length_eq_zero_iff.mp hl.symm)

/-- The names under which a logging instance asks are made for it. -/
theorem map_name_logRequests {i : LogInstance} {rs : List PipelineRequest}
    (h : logRequests i = .ok rs) : rs.map (·.name) = logNames i := by
  rw [name_logRequests h, logNames, receiver_logRequests h, Option.getD_some, List.length_map]

/-- The names of all requests are those that are made for the instances. -/
theorem Requested.names (h : Requested c ms ls rss) :
    (requests ms rss).map (·.name) = generatedNames ms ls :=
  h.map_requests name_metricsRequests fun _ _ => map_name_logRequests

/-- The keys of all requests are these names behind the names of their signals. -/
theorem Requested.keys (h : Requested c ms ls rss) :
    (requests ms rss).map (·.key) = ms.flatMap (fun i => (metricsNames i).map ("metrics/" ++ ·))
      ++ ls.flatMap fun i => (logNames i).map ("logs/" ++ ·) := by
  refine h.map_requests ?_ ?_
  · intro i
    rw [metricsNames, ← name_metricsRequests, List.map_map]
    refine List.map_congr_left ?_
    intro r hr
    obtain ⟨_, -, rfl⟩ := List.mem_map.mp hr
    rfl
  · intro i rs hrs
    rw [← map_name_logRequests hrs, List.map_map]
    refine List.map_congr_left ?_
    intro r hr
    obtain ⟨_, _, -, -, rfl⟩ := logRequests_eq_ok.mp hrs
    obtain ⟨_, -, rfl⟩ := List.mem_map.mp hr
    rfl

/-- There are names for every instance that asks for something. -/
theorem Requested.logNames_ne_nil (h : Requested c ms ls rss) : ∀ i ∈ ls, logNames i ≠ [] := by
  intro i hi
  obtain ⟨rs, -, hrs⟩ := exists_of_mem_forall₂ h.each.flip hi
  obtain ⟨rps, nodes, hrps, -⟩ := logRequests_eq_ok.mp hrs
  obtain ⟨s, rfl⟩ := pipelines?_eq_some hrps
  rw [logNames, hrps]
  exact pipelineNames_ne_nil (List.cons_ne_nil _ _)

theorem metricsNames_ne_nil (i : MetricsInstance) : metricsNames i ≠ [] :=
  pipelineNames_ne_nil (pipelines_ne_nil i.receiver)

/-- Instances whose components are for the collector ask for something. -/
theorem exists_requested (hms : c.metricsInstances = .ok ms)
    (hls : c.logInstances .collector = .ok ls) (hsuits : ∀ i ∈ ls, Suits i.expand) :
    ∃ rss, Requested c ms ls rss := by
  obtain ⟨rss, hrss⟩ := exists_forall₂ fun i hi => exists_logRequests_iff.mpr (hsuits i hi)
  exact ⟨rss, hms, hls, hrss⟩

/-- **Only a name that comes twice is refused.** -/
theorem compile_of_requested (h : Requested c ms ls rss) :
    ((generatedNames ms ls).Nodup ∧ ∃ files, compile c p o = .ok files) ∨
      ∃ r : PipelineRequest, 2 ≤ (generatedNames ms ls).count r.name ∧
        compile c p o = .error r.clash := by
  rcases build_of_requested (p := p) (o := o) h with ⟨parts, hparts, hb⟩ | ⟨r, -, htwice, hb⟩
  · obtain ⟨doc, hdoc, -⟩ := compile_of_hold hb hparts h.sound
    exact .inl ⟨h.names ▸ hparts.distinct, _, hdoc⟩
  · exact .inr ⟨r, h.names ▸ htwice, bind_eq_error.mpr (.inl hb)⟩

/-- **How a compilation for the collector ends.** The serialiser refuses nothing. If there is a
file, its service pipelines are those of all instances, each of which has some. And where the
instances are resolved and all their components are for the collector, there is a file exactly if
the generated names are distinct; otherwise one that comes twice is refused. -/
theorem compile_outcome (c : Config) (p : Platform) (o : CompileOptions) :
    (∀ b reason, compile c p o ≠ .error (.backend b reason)) ∧
    (∀ files, compile c p o = .ok files → ∃ ms ls doc, c.metricsInstances = .ok ms ∧
      c.logInstances .collector = .ok ls ∧ files = .ofList [(Graph.fileName, Yaml.write doc)] ∧
      (∀ i ∈ ms, metricsNames i ≠ []) ∧ (∀ i ∈ ls, logNames i ≠ []) ∧
      (doc.keysAt ["service", "pipelines"]).Perm
        (ms.flatMap (fun i => (metricsNames i).map ("metrics/" ++ ·))
          ++ ls.flatMap fun i => (logNames i).map ("logs/" ++ ·))) ∧
    ∀ ms ls, c.metricsInstances = .ok ms → c.logInstances .collector = .ok ls →
      (∀ i ∈ ls, Suits i.expand) →
      ((∃ files, compile c p o = .ok files) ↔ (generatedNames ms ls).Nodup) ∧
      (¬ (generatedNames ms ls).Nodup → ∃ domain name, 2 ≤ (generatedNames ms ls).count name ∧
        compile c p o = .error (.cardinality domain ("collector pipeline name " ++ Text.quote name
          ++ " must be unique across logging and metrics") 2)) := by
  refine ⟨?_, ?_, ?_⟩
  · intro b reason h
    exact Bool.noConfusion (compile_failsOnly c p o _ h)
  · intro files h
    obtain ⟨ms, ls, rss, doc, hreq, hfiles, hclosed⟩ := requested_of_compile h
    refine ⟨ms, ls, doc, hreq.metrics, hreq.logs, hfiles, fun i _ => metricsNames_ne_nil i,
      hreq.logNames_ne_nil, ?_⟩
    exact hreq.keys ▸ hclosed.pipelines
  · intro ms ls hms hls hsuits
    obtain ⟨rss, hreq⟩ := exists_requested hms hls hsuits
    rcases compile_of_requested (p := p) (o := o) hreq with ⟨hn, hok⟩ | ⟨r, htwice, herr⟩
    · exact ⟨⟨fun _ => hn, fun _ => hok⟩, fun h => absurd hn h⟩
    · have hdup : ¬ (generatedNames ms ls).Nodup := by
        intro hn
        have := List.nodup_iff_count_le_one.mp hn r.name
        omega
      refine ⟨⟨?_, fun hn => absurd hn hdup⟩, fun _ => ⟨r.domain, r.name, htwice, herr⟩⟩
      rintro ⟨files, hok⟩
      rw [herr] at hok
      exact nomatch hok

/-- A metrics and a logging pipeline whose ids are cut differently, but join to one name. -/
def cutDifferently : Config where
  logging := some {
    receivers := .ofList [("b_c", .files { includePaths := ["/a.log"] })]
    pipelines := .ofList [("a", { receivers := ["b_c"], engine := .collector })] }
  metrics := some {
    receivers := .ofList [("c", .otlp none)]
    pipelines := .ofList [("a_b", { receivers := ["c"] })] }

/-- The name that comes twice in `cutDifferently` is refused. -/
theorem compile_outcome_cutDifferently :
    ∃ ms ls, cutDifferently.metricsInstances = .ok ms ∧
      cutDifferently.logInstances .collector = .ok ls ∧ (∀ i ∈ ls, Suits i.expand) ∧
      ¬ (generatedNames ms ls).Nodup ∧ ∃ domain name, 2 ≤ (generatedNames ms ls).count name ∧
        compile cutDifferently samplePlatform {} = .error (.cardinality domain
          ("collector pipeline name " ++ Text.quote name
            ++ " must be unique across logging and metrics") 2) := by
  have h : (cutDifferently.metricsInstances >>= fun ms =>
      (cutDifferently.logInstances .collector).map fun ls =>
        decide ((∀ i ∈ ls, Suits i.expand) ∧ ¬ (generatedNames ms ls).Nodup)) = .ok true := by
    rfl
  obtain ⟨ms, hms, h⟩ := bind_eq_ok.mp h
  obtain ⟨ls, hls, h⟩ := map_eq_ok.mp h
  obtain ⟨hsuits, hdup⟩ := of_decide_eq_true h
  obtain ⟨-, -, hends⟩ := compile_outcome cutDifferently samplePlatform {}
  exact ⟨ms, ls, hms, hls, hsuits, hdup, (hends ms ls hms hls hsuits).2 hdup⟩

end CollectorGraph

end Telemetry
