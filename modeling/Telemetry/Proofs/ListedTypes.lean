import Telemetry.Proofs.CollectorRun
import Telemetry.Proofs.Components
import Telemetry.Proofs.References

/-!
# Types that the catalog lists

The catalog tells a user which types of components an engine has. The compiler asks the components
themselves, after they have been expanded. Both should say the same: a configuration is turned down
for a missing capability exactly where it uses a type that the catalog does not list for the engine.

* **`Config.CollectorUses`** — the types that the logging pipelines for the collector use.
* **`CollectorGraph.suits_iff_lists`** — all instances are for the collector exactly if all these
  types are listed for it.
* **`CollectorGraph.foldlM_logs`** — under distinct names, only a missing capability stops the graph.
* **`compile_lists`** — how compilations end for types that are listed and for types that are not.
-/

namespace Telemetry

open Failing

/-- The logging pipelines for the collector use a type of components of a role. Pipelines without
receivers are left out, because there is no instance of them. -/
def Config.CollectorUses (c : Config) (role : Role) (typeName : String) : Prop :=
  ∃ l id p, c.logging = some l ∧ l.pipelines.get? id = some p ∧ p.engine = .collector ∧
    p.receivers ≠ [] ∧ ∃ ref ∈ p.listed role, ∃ info, l.component? role ref = some info ∧
      info.typeName = typeName

namespace CollectorGraph

variable {c : Config} {p : Platform} {o : CompileOptions} {ms : List MetricsInstance}
  {ls : List LogInstance}

/-! ## Used types and instances -/

/-- Where the instances are for the collector, so is each component that a pipeline with a receiver
lists. -/
theorem otel_of_suits {l : Logging} (hls : l.resolve .collector = .ok ls)
    (hsuits : ∀ i ∈ ls, Suits i.expand) {id : String} {pipeline : LogPipeline}
    (hp : l.pipelines.get? id = some pipeline) (he : pipeline.engine = .collector)
    (hne : pipeline.receivers ≠ []) {role : Role} {ref : String} (href : ref ∈ pipeline.listed role)
    {info : ComponentInfo} (hinfo : l.component? role ref = some info) :
    "otel" ∈ info.capabilities := by
  have hinstance : ∀ r ∈ pipeline.receivers, ∃ i ∈ ls, i.pipeline = id ∧ i.receiverId = r :=
    fun r hr => Logging.exists_instance hls hp he hr
  have hotel : ∀ i ∈ ls, "otel" ∈ i.receiver.capabilities ∧
      ∀ b ∈ i.processors, "otel" ∈ b.processor.capabilities := by
    intro i hi
    obtain ⟨config, -, hr⟩ := (Logging.resolvedIn_of_resolve hls i hi).receiver
    exact (LogInstance.suits_expand_iff hr).mp (hsuits i hi)
  cases role with
  | receiver =>
      obtain ⟨i, hi, -, rfl⟩ := hinstance ref href
      obtain ⟨config, hconfig, hr⟩ := (Logging.resolvedIn_of_resolve hls i hi).receiver
      rw [Logging.component?_of_receiver hconfig] at hinfo
      obtain rfl := Option.some.inj hinfo
      have hreceiver := (hotel i hi).1
      rwa [hr] at hreceiver
  | processor =>
      -- any instance of the pipeline is bound to all processors that it lists
      obtain ⟨r, hr⟩ := List.exists_mem_of_ne_nil _ hne
      obtain ⟨i, hi, rfl, -⟩ := hinstance r hr
      obtain ⟨pipeline', hp', -, -, hbound, -⟩ :=
        (Logging.resolvedIn_of_resolve hls i hi).pipeline
      obtain rfl : pipeline = pipeline' := Option.some.inj (hp.symm.trans hp')
      obtain ⟨b, hb, hbind⟩ := exists_of_mem_forall₂ hbound.flip href
      obtain ⟨info', hinfo', hcap⟩ := Logging.component?_of_bindProcessor hbind
      obtain rfl : info = info' := Option.some.inj (hinfo.symm.trans hinfo')
      rw [hcap]
      exact (hotel i hi).2 b hb
  | exporter => cases hinfo
  | pipeline => cases hinfo
  | service => cases hinfo

/-- **All instances are for the collector exactly if all types that are used are listed for it.** -/
theorem suits_iff_lists (hls : c.logInstances .collector = .ok ls) :
    (∀ i ∈ ls, Suits i.expand) ↔
      ∀ role t, c.CollectorUses role t → Catalog.Lists .logging role t "otel" := by
  constructor
  · rintro hsuits role _ ⟨l, id, pipeline, hl, hp, he, hne, ref, href, info, hinfo, rfl⟩
    rw [Config.logInstances, hl] at hls
    exact (Catalog.lists_iff hinfo "otel").mpr (otel_of_suits hls hsuits hp he hne href hinfo)
  · intro hlisted i hi
    obtain ⟨l, hl, hbound⟩ := (Config.logInstances_eq_ok hls).2 i hi
    obtain ⟨pipeline, hp, he, hreceiver, hprocessors, -⟩ := hbound.pipeline
    obtain ⟨config, hconfig, hr⟩ := hbound.receiver
    have hotel : ∀ role, ∀ ref ∈ pipeline.listed role, ∀ info,
        l.component? role ref = some info → "otel" ∈ info.capabilities := by
      intro role ref href info hinfo
      refine (Catalog.lists_iff hinfo "otel").mp (hlisted role _ ?_)
      exact ⟨l, i.pipeline, pipeline, hl, hp, he, List.ne_nil_of_mem hreceiver, ref, href, info,
        hinfo, rfl⟩
    refine (LogInstance.suits_expand_iff hr).mpr ⟨?_, ?_⟩
    · rw [hr]
      exact hotel .receiver _ hreceiver _ (Logging.component?_of_receiver hconfig)
    · intro b hb
      obtain ⟨ref, href, hbind⟩ := exists_of_mem_forall₂ hprocessors hb
      obtain ⟨info, hinfo, hcap⟩ := Logging.component?_of_bindProcessor hbind
      rw [← hcap]
      exact hotel .processor ref href info hinfo

/-! ## What stops the graph -/

/-- An instance is turned down for a capability that is missing. -/
theorem logRequests_lacks (i : LogInstance) :
    FailsOnly (fun e => ∃ role id, e = .missingCapability .logging role id i.pipeline "otel")
      (logRequests i) := by
  refine (logRequests_refused i).imp ?_
  rintro e (⟨-, rfl⟩ | ⟨b, -, -, rfl⟩)
  · exact ⟨_, _, rfl⟩
  · exact ⟨_, _, rfl⟩

/-- **Under distinct names, only an instance that is turned down stops the graph.** The induction is
on the instances still to come, with the requests that were taken growing. -/
theorem foldlM_logs {parts : Parts} {rs : List PipelineRequest} (h : parts.Hold rs)
    (hn : (rs.map (·.name) ++ ls.flatMap logNames).Nodup) :
    FailsOnly (fun e => ∃ i ∈ ls, logRequests i = .error e)
      (ls.foldlM (Parts.addInstance logRequests) parts) := by
  induction ls generalizing parts rs with
  | nil => exact .ok _
  | cons i ls ih =>
      rw [List.foldlM_cons]
      cases hi : logRequests i with
      | error e =>
          rw [Parts.addInstance, hi]
          exact .error ⟨i, List.mem_cons_self, hi⟩
      | ok rs' =>
          rw [Parts.addInstance, hi]
          rw [List.flatMap_cons, ← map_name_logRequests hi, ← List.append_assoc,
            ← List.map_append] at hn
          obtain ⟨parts', hok, hparts'⟩ :=
            Parts.foldlM_add_of_nodup h (List.nodup_append.mp hn).1
          refine .bind ?_ fun parts'' hparts'' => ?_
          · show FailsOnly _ (rs'.foldlM Parts.add parts)
            rw [hok]
            exact .ok _
          · obtain rfl : parts' = parts'' := Except.ok.inj (hok.symm.trans hparts'')
            refine (ih hparts' hn).imp ?_
            rintro e ⟨j, hj, he⟩
            exact ⟨j, List.mem_cons_of_mem _ hj, he⟩

/-- **Under distinct names, a graph is only refused for a missing capability.** -/
theorem build_lacks (hms : c.metricsInstances = .ok ms) (hls : c.logInstances .collector = .ok ls)
    (hn : (generatedNames ms ls).Nodup) :
    FailsOnly (fun e => ∃ role id pipeline,
      e = .missingCapability .logging role id pipeline "otel") (build c p o) := by
  have hnames : (ms.flatMap metricsRequests).map (·.name) = ms.flatMap metricsNames := by
    rw [List.map_flatMap]
    exact congrArg (ms.flatMap ·) (funext name_metricsRequests)
  have hmetrics : ∃ parts : Parts, ms.foldlM (Parts.addInstance fun i => .ok (metricsRequests i)) {}
      = .ok parts ∧ parts.Hold (ms.flatMap metricsRequests) := by
    rw [Parts.foldlM_addInstance (forall₂_metricsRequests ms), ← List.flatMap_def]
    refine Parts.foldlM_add_of_nodup Parts.hold_nil ?_
    rw [List.nil_append, hnames]
    exact (List.nodup_append.mp hn).1
  obtain ⟨parts, hparts, hhold⟩ := hmetrics
  rw [build, hms, hls]
  refine .bind (.ok _) fun ms' hms' => ?_
  obtain rfl := Except.ok.inj hms'
  rw [hparts]
  refine .bind (.ok _) fun parts' hparts' => .bind (.ok _) fun ls' hls' => .bind ?_ fun _ _ => .ok _
  obtain rfl := Except.ok.inj hparts'
  obtain rfl := Except.ok.inj hls'
  refine (foldlM_logs hhold ?_).imp ?_
  · rw [hnames]
    exact hn
  · rintro e ⟨i, -, he⟩
    obtain ⟨role, id, rfl⟩ := logRequests_lacks i e he
    exact ⟨role, id, i.pipeline, rfl⟩

/-- Instances that ask for something are for the collector. -/
theorem Requested.suits {rss : List (List PipelineRequest)} (h : Requested c ms ls rss) :
    ∀ i ∈ ls, Suits i.expand := by
  intro i hi
  obtain ⟨rs, -, hrs⟩ := exists_of_mem_forall₂ h.each.flip hi
  exact exists_logRequests_iff.mp ⟨rs, hrs⟩

/-- Under distinct names, an instance that is not for the collector is turned down as such. -/
theorem compile_lacks (hms : c.metricsInstances = .ok ms) (hls : c.logInstances .collector = .ok ls)
    (hsuits : ¬ ∀ i ∈ ls, Suits i.expand) (hn : (generatedNames ms ls).Nodup) :
    ∃ role id pipeline,
      compile c p o = .error (.missingCapability .logging role id pipeline "otel") := by
  cases hb : build c p o with
  | error e =>
      obtain ⟨role, id, pipeline, rfl⟩ := build_lacks hms hls hn e hb
      exact ⟨role, id, pipeline, bind_eq_error.mpr (.inl hb)⟩
  | ok g =>
      obtain ⟨_, ls', rss, hreq⟩ := requested_of_build hb
      obtain rfl : ls = ls' := Except.ok.inj (hls.symm.trans hreq.logs)
      exact absurd hreq.suits hsuits

end CollectorGraph

/-! ## The catalog and the compiler -/

/-- The log engine lacks nothing that a configuration can ask for. -/
theorem LogEngine.compile_ne_lacks {c : Config} (hc : c.check = .ok ()) (p : Platform)
    (o : CompileOptions) (domain : Domain) (role : Role) (id pipeline capability : String) :
    compile c p o ≠ .error (.missingCapability domain role id pipeline capability) := by
  intro h
  rcases compile_eq_error h with h | ⟨reason, h⟩
  · rcases Config.logInstances_eq_error hc h with ⟨_, _, _, h⟩ | ⟨_, _, _, _, _, h⟩
    · cases h
    · cases h
  · cases h

/-- **The catalog agrees with the compiler.** For the log engine, no capability is ever missing. For
the collector, where the instances of both domains are resolved: if the catalog lists all types that
the logging pipelines use for it, no capability is missing; and if one of these types is not listed,
there are no files, for the reason that a capability is missing unless two generated names clash. -/
theorem compile_lists {c : Config} (hc : c.check = .ok ()) (p : Platform) (o : CompileOptions) :
    (∀ domain role id pipeline capability, compile c .fluentBit p o
      ≠ .error (.invalid (.missingCapability domain role id pipeline capability))) ∧
    ∀ ms ls, c.metricsInstances = .ok ms → c.logInstances .collector = .ok ls →
      ((∀ role t, c.CollectorUses role t → Catalog.Lists .logging role t "otel") →
        ∀ domain role id pipeline capability, compile c .collector p o
          ≠ .error (.invalid (.missingCapability domain role id pipeline capability))) ∧
      ∀ role t, c.CollectorUses role t → ¬ Catalog.Lists .logging role t "otel" →
        (∃ e, compile c .collector p o = .error e) ∧
        ((CollectorGraph.generatedNames ms ls).Nodup → ∃ role id pipeline,
          compile c .collector p o
            = .error (.invalid (.missingCapability .logging role id pipeline "otel"))) := by
  refine ⟨?_, fun ms ls hms hls => ⟨?_, ?_⟩⟩
  · intro domain role id pipeline capability h
    have he := mapError_eq_error_of_injective (fun _ _ => Refusal.invalid.inj) h
    exact LogEngine.compile_ne_lacks hc p o _ _ _ _ _ he
  · intro hlisted domain role id pipeline capability h
    have he := mapError_eq_error_of_injective (fun _ _ => Refusal.invalid.inj) h
    obtain ⟨rss, hreq⟩ := CollectorGraph.exists_requested hms hls
      ((CollectorGraph.suits_iff_lists hls).mpr hlisted)
    -- all that is left to be refused is a name that comes twice
    rcases CollectorGraph.compile_of_requested (p := p) (o := o) hreq with
      ⟨-, files, hok⟩ | ⟨r, -, herr⟩
    · rw [hok] at he
      cases he
    · rw [herr] at he
      cases he
  · intro role t huses hunlisted
    have hsuits : ¬ ∀ i ∈ ls, CollectorGraph.Suits i.expand := fun hall =>
      hunlisted ((CollectorGraph.suits_iff_lists hls).mp hall role t huses)
    constructor
    · cases h : compile c .collector p o with
      | error e => exact ⟨e, rfl⟩
      | ok files =>
          -- files are only written where all instances asked for something
          obtain ⟨_, ls', rss, -, hreq, -⟩ :=
            CollectorGraph.requested_of_compile (mapError_eq_ok.mp h)
          obtain rfl : ls = ls' := Except.ok.inj (hls.symm.trans hreq.logs)
          exact absurd hreq.suits hsuits
    · intro hn
      obtain ⟨role, id, pipeline, h⟩ :=
        CollectorGraph.compile_lacks (p := p) (o := o) hms hls hsuits hn
      exact ⟨role, id, pipeline, mapError_eq_error.mpr ⟨_, h, rfl⟩⟩

/-- A pipeline with types that are listed for the collector, one without receivers, and one for the
log engine. -/
def listedTypes : Config where
  logging := some {
    receivers := .ofList [
      ("f", .files { includePaths := ["/a.log"] }),
      ("web", .app .nginxAccess {})]
    processors := .ofList [
      ("json", .parseJson {}),
      ("java", .parseMultiline [⟨languageExceptions, "java"⟩])]
    pipelines := .ofList [
      ("a", { receivers := ["f"], processors := ["json"], engine := .collector }),
      ("b", { processors := ["java"], engine := .collector }),
      ("c", { receivers := ["web"], processors := ["java"] })] }

/-- A pipeline for the collector that applies a built-in parser. -/
def unlistedType : Config where
  logging := some {
    receivers := .ofList [("f", .files { includePaths := ["/a.log"] })]
    pipelines := .ofList [
      ("p", { receivers := ["f"], processors := ["lib:nginx"], engine := .collector })] }

/-- In `listedTypes`, no capability is missing for the collector; in `unlistedType` one is. -/
theorem compile_lists_listedTypes :
    (∀ domain role id pipeline capability, compile listedTypes .collector samplePlatform {}
      ≠ .error (.invalid (.missingCapability domain role id pipeline capability))) ∧
    unlistedType.CollectorUses .processor "lib:nginx" ∧
    ¬ Catalog.Lists .logging .processor "lib:nginx" "otel" ∧
    ∃ role id pipeline, compile unlistedType .collector samplePlatform {}
      = .error (.invalid (.missingCapability .logging role id pipeline "otel")) := by
  have hsuits : (listedTypes.logInstances .collector).map (fun ls =>
      decide (∀ i ∈ ls, CollectorGraph.Suits i.expand)) = .ok true := by
    rfl
  have hnames : (unlistedType.logInstances .collector).map (fun ls =>
      decide (CollectorGraph.generatedNames [] ls).Nodup) = .ok true := by
    rfl
  obtain ⟨ls, hls⟩ : ∃ ls, listedTypes.logInstances .collector = .ok ls :=
    exists_of_isOk rfl
  obtain ⟨ls', hls'⟩ : ∃ ls, unlistedType.logInstances .collector = .ok ls :=
    exists_of_isOk rfl
  have hlisted := (CollectorGraph.suits_iff_lists hls).mp (of_map_decide hls hsuits)
  have huses : unlistedType.CollectorUses .processor "lib:nginx" :=
    ⟨_, "p", _, rfl, rfl, rfl, List.cons_ne_nil _ _, "lib:nginx", List.mem_singleton_self _,
      ParserDef.builtinInfo "lib:nginx", rfl, rfl⟩
  have hunlisted : ¬ Catalog.Lists .logging .processor "lib:nginx" "otel" := by decide
  have hboth := (compile_lists (c := listedTypes) rfl samplePlatform {}).2 [] ls rfl hls
  have hneither := (compile_lists (c := unlistedType) rfl samplePlatform {}).2 [] ls' rfl hls'
  have hdistinct := of_map_decide hls' hnames
  exact ⟨hboth.1 hlisted, huses, hunlisted,
    (hneither.2 .processor "lib:nginx" huses hunlisted).2 hdistinct⟩

end Telemetry
