import Telemetry.Proofs.Keyed
import Telemetry.Proofs.Requests

/-!
# Putting the collector graph together

The graph grows by one request after the other. What it holds at any time is known from the requests
so far, and the only thing that stops it from growing is a name that comes twice:

* **`Parts.Hold`** — the parts of the graph hold what some requests ask for.
* **`Parts.add_cases`** — what one request does.
* **`Parts.foldlM_add`** — what all requests do.
* **`build_of_requested`**, **`requested_of_build`** — the graph of a configuration, made of the
  requests of all its instances.
-/

namespace Telemetry

open Failing

namespace PipelineRequest

variable (r : PipelineRequest)

/-- The service pipeline for a request. -/
def service : ServicePipeline :=
  ⟨r.signal, r.name, r.processors⟩

/-- The receiver pipeline for a request, which says where the signal is sent. -/
def wired : ReceiverPipeline :=
  { r.receiver with exporterTypes := r.receiver.exporterTypes.set r.signal r.target }

/-- Why a request is turned down whose name is taken. -/
def clash : CompileError :=
  .cardinality r.domain ("collector pipeline name " ++ Text.quote r.name
    ++ " must be unique across logging and metrics") 2

end PipelineRequest

namespace CollectorGraph

/-- The parts of a graph hold what some requests under distinct names ask for. -/
structure Parts.Hold (parts : Parts) (rs : List PipelineRequest) : Prop where
  distinct : (rs.map (·.name)).Nodup
  receiverPipelines : parts.receiverPipelines = .ofList (rs.map fun r => (r.name, r.wired))
  pipelines : parts.pipelines = .ofList (rs.map fun r => (r.name, r.service))
  exporterTypes : ∀ t, t ∈ parts.exporterTypes ↔ ∃ r ∈ rs, r.target = t

namespace Parts

variable {parts : Parts} {rs : List PipelineRequest}

/-- At first nothing is asked for. -/
theorem hold_nil : Hold {} [] :=
  ⟨List.nodup_nil, rfl, rfl, by simp⟩

/-- The names that are taken are those of the requests. -/
theorem Hold.contains_iff (h : parts.Hold rs) {name : String} :
    parts.pipelines.contains name = true ↔ name ∈ rs.map (·.name) := by
  have hkeys : (rs.map fun r => (r.name, r.service)).map (·.1) = rs.map (·.name) := by
    rw [List.map_map]
    rfl
  rw [Keyed.contains, Option.isSome_iff_exists, ← Keyed.mem_keys_iff, h.pipelines,
    Keyed.mem_keys_ofList, hkeys]

/-- **One request** is taken if its name is new, and otherwise turned down. -/
theorem add_cases (h : parts.Hold rs) (r : PipelineRequest) :
    (∃ parts', parts.add r = .ok parts' ∧ parts'.Hold (rs ++ [r])) ∨
      (r.name ∈ rs.map (·.name) ∧ parts.add r = .error r.clash) := by
  rw [Parts.add]
  by_cases hc : parts.pipelines.contains r.name = true
  · exact .inr ⟨h.contains_iff.mp hc, if_pos hc⟩
  · refine .inl ⟨_, if_neg hc, ?_⟩
    constructor
    case distinct =>
      rw [List.map_append]
      refine List.nodup_append'.mpr ⟨h.distinct, List.nodup_singleton _, ?_⟩
      intro name hn hr
      rw [List.mem_singleton.mp hr] at hn
      exact hc (h.contains_iff.mpr hn)
    case receiverPipelines =>
      rw [h.receiverPipelines, List.map_append]
      exact (Keyed.ofList_concat _ (r.name, r.wired)).symm
    case pipelines =>
      rw [h.pipelines, List.map_append]
      exact (Keyed.ofList_concat _ (r.name, r.service)).symm
    case exporterTypes =>
      intro t
      have hr : (∃ r' ∈ rs ++ [r], r'.target = t) ↔ (∃ r' ∈ rs, r'.target = t) ∨ r.target = t := by
        simp only [List.mem_append, List.mem_singleton, or_and_right, exists_or, exists_eq_left]
      rw [hr, ← h.exporterTypes]
      show t ∈ (if parts.exporterTypes.contains r.target then parts.exporterTypes
        else parts.exporterTypes ++ [r.target]) ↔ _
      split
      · rename_i hin
        constructor
        · exact .inl
        · rintro (ht | rfl)
          · exact ht
          · exact List.contains_iff_mem.mp hin
      · rw [List.mem_append, List.mem_singleton, eq_comm (a := t)]

/-- **All requests** are taken if no name comes twice. Otherwise one whose name does is turned down.
The induction is on the requests still to come, with those that were taken growing. -/
theorem foldlM_add (h : parts.Hold rs) (rs' : List PipelineRequest) :
    (∃ parts', rs'.foldlM Parts.add parts = .ok parts' ∧ parts'.Hold (rs ++ rs')) ∨
      ∃ r ∈ rs', 2 ≤ ((rs ++ rs').map (·.name)).count r.name ∧
        rs'.foldlM Parts.add parts = .error r.clash := by
  induction rs' generalizing parts rs with
  | nil =>
      rw [List.append_nil]
      exact .inl ⟨parts, rfl, h⟩
  | cons r rs' ih =>
      rw [List.foldlM_cons]
      rcases add_cases h r with ⟨parts', hadd, hparts'⟩ | ⟨htaken, hadd⟩
      · rw [show rs ++ r :: rs' = (rs ++ [r]) ++ rs' by simp]
        rcases ih hparts' with ⟨parts'', hok, hparts''⟩ | ⟨r', hr', htwice, herr⟩
        · exact .inl ⟨parts'', bind_eq_ok.mpr ⟨parts', hadd, hok⟩, hparts''⟩
        · exact .inr ⟨r', List.mem_cons_of_mem _ hr', htwice,
            bind_eq_error.mpr (.inr ⟨parts', hadd, herr⟩)⟩
      · refine .inr ⟨r, List.mem_cons_self, ?_, bind_eq_error.mpr (.inl hadd)⟩
        -- the name comes once among the requests that were taken, and once more with this one
        have hbefore : 1 ≤ (rs.map (·.name)).count r.name := List.one_le_count_iff.mpr htaken
        rw [List.map_append, List.count_append, List.map_cons, List.count_cons_self]
        omega

/-- Requests under distinct names are all taken. -/
theorem foldlM_add_of_nodup (h : parts.Hold rs) {rs' : List PipelineRequest}
    (hn : ((rs ++ rs').map (·.name)).Nodup) :
    ∃ parts', rs'.foldlM Parts.add parts = .ok parts' ∧ parts'.Hold (rs ++ rs') := by
  rcases foldlM_add h rs' with hok | ⟨r, -, htwice, -⟩
  · exact hok
  · have honce := List.nodup_iff_count_le_one.mp hn r.name
    omega

/-- Where all instances have requests, these are added one after the other. -/
theorem foldlM_addInstance {α : Type} {f : α → Except CompileError (List PipelineRequest)}
    {is : List α} {rss : List (List PipelineRequest)}
    (h : List.Forall₂ (fun i rs => f i = .ok rs) is rss) (parts : Parts) :
    is.foldlM (addInstance f) parts = rss.flatten.foldlM Parts.add parts := by
  induction h generalizing parts with
  | nil => rfl
  | cons hi _ ih =>
      rw [List.foldlM_cons, List.flatten_cons, List.foldlM_append, addInstance, hi]
      exact congrArg _ (funext ih)

/-- Instances can only be added if all have requests. -/
theorem forall₂_of_foldlM_addInstance {α : Type}
    {f : α → Except CompileError (List PipelineRequest)} {is : List α} {parts parts' : Parts}
    (h : is.foldlM (addInstance f) parts = .ok parts') :
    ∃ rss, List.Forall₂ (fun i rs => f i = .ok rs) is rss := by
  induction is generalizing parts with
  | nil => exact ⟨[], .nil⟩
  | cons i is ih =>
      rw [List.foldlM_cons] at h
      obtain ⟨_, hi, h⟩ := bind_eq_ok.mp h
      obtain ⟨rs, hrs, -⟩ := bind_eq_ok.mp hi
      obtain ⟨rss, hrss⟩ := ih h
      exact ⟨rs :: rss, .cons hrs hrss⟩

end Parts

/-! ## The graph of a configuration -/

/-- What the instances of a configuration ask of the collector: the instances of both domains, and
the requests of each logging instance. -/
structure Requested (c : Config) (ms : List MetricsInstance) (ls : List LogInstance)
    (rss : List (List PipelineRequest)) : Prop where
  metrics : c.metricsInstances = .ok ms
  logs : c.logInstances .collector = .ok ls
  each : List.Forall₂ (fun i rs => logRequests i = .ok rs) ls rss

/-- The requests of all instances, metrics first. -/
def requests (ms : List MetricsInstance) (rss : List (List PipelineRequest)) :
    List PipelineRequest :=
  ms.flatMap metricsRequests ++ rss.flatten

variable {c : Config} {p : Platform} {o : CompileOptions} {ms : List MetricsInstance}
  {ls : List LogInstance} {rss : List (List PipelineRequest)}

/-- All requests are sound. -/
theorem Requested.sound (h : Requested c ms ls rss) : ∀ r ∈ requests ms rss, r.Sound := by
  intro r hr
  rcases List.mem_append.mp hr with hr | hr
  · obtain ⟨i, -, hi⟩ := List.mem_flatMap.mp hr
    exact sound_of_metricsRequests hi
  · obtain ⟨rs, hrs, hr⟩ := List.mem_flatten.mp hr
    obtain ⟨i, -, hi⟩ := exists_of_mem_forall₂ h.each hrs
    exact sound_of_logRequests hi r hr

/-- What is read off the requests of each instance can be read off all of them. -/
theorem Requested.map_requests (h : Requested c ms ls rss) {β : Type} {f : PipelineRequest → β}
    {g : MetricsInstance → List β} {g' : LogInstance → List β}
    (hmetrics : ∀ i, (metricsRequests i).map f = g i)
    (hlogs : ∀ i rs, logRequests i = .ok rs → rs.map f = g' i) :
    (requests ms rss).map f = ms.flatMap g ++ ls.flatMap g' := by
  obtain ⟨-, -, heach⟩ := h
  have hflat : rss.flatten.map f = ls.flatMap g' := by
    induction heach with
    | nil => rfl
    | cons hi _ ih => rw [List.flatten_cons, List.map_append, hlogs _ _ hi, ih, List.flatMap_cons]
  rw [requests, List.map_append, List.map_flatMap, hflat]
  simp only [hmetrics]

/-- Metrics instances always have requests. -/
theorem forall₂_metricsRequests (ms : List MetricsInstance) :
    List.Forall₂ (fun i rs => (.ok (metricsRequests i) : Except CompileError _) = .ok rs) ms
      (ms.map metricsRequests) := by
  rw [List.forall₂_map_right_iff]
  exact List.forall₂_same.mpr fun _ _ => rfl

/-- The graph is made of all requests, in one go. -/
theorem Requested.build_eq (h : Requested c ms ls rss) :
    build c p o = ((requests ms rss).foldlM Parts.add {}).map (ofParts c p o) := by
  have hmetrics := Parts.foldlM_addInstance (forall₂_metricsRequests ms) {}
  rw [← List.flatMap_def] at hmetrics
  have hlogs := fun parts => Parts.foldlM_addInstance h.each parts
  show (c.metricsInstances >>= fun metrics => _) = _
  rw [h.metrics]
  show (ms.foldlM (Parts.addInstance fun i => .ok (metricsRequests i)) {} >>= fun parts =>
    c.logInstances .collector >>= fun logs => logs.foldlM (Parts.addInstance logRequests) parts
      >>= fun parts => .ok (ofParts c p o parts)) = _
  rw [hmetrics, h.logs, requests, List.foldlM_append]
  cases (ms.flatMap metricsRequests).foldlM Parts.add {} with
  | error e => rfl
  | ok parts =>
      show (ls.foldlM (Parts.addInstance logRequests) parts >>= fun parts =>
        .ok (ofParts c p o parts)) = (rss.flatten.foldlM Parts.add parts).map _
      rw [hlogs parts]
      cases rss.flatten.foldlM Parts.add parts <;> rfl

/-- **The graph is built from what the instances ask for**, unless two ask under one name. -/
theorem build_of_requested (h : Requested c ms ls rss) :
    (∃ parts, parts.Hold (requests ms rss) ∧ build c p o = .ok (ofParts c p o parts)) ∨
      ∃ r ∈ requests ms rss, 2 ≤ ((requests ms rss).map (·.name)).count r.name ∧
        build c p o = .error r.clash := by
  rw [h.build_eq]
  rcases Parts.foldlM_add Parts.hold_nil (requests ms rss) with
    ⟨parts, hok, hparts⟩ | ⟨r, hr, h2, he⟩
  · refine .inl ⟨parts, hparts, ?_⟩
    rw [hok]
    rfl
  · refine .inr ⟨r, hr, h2, ?_⟩
    rw [he]
    rfl

/-- A graph that is built is that of some instances, all of which have requests. -/
theorem requested_of_build {g : Graph} (h : build c p o = .ok g) :
    ∃ ms ls rss, Requested c ms ls rss := by
  obtain ⟨ms, hms, h⟩ := bind_eq_ok.mp h
  obtain ⟨_, -, h⟩ := bind_eq_ok.mp h
  obtain ⟨ls, hls, h⟩ := bind_eq_ok.mp h
  obtain ⟨_, hadd, -⟩ := bind_eq_ok.mp h
  obtain ⟨rss, hrss⟩ := Parts.forall₂_of_foldlM_addInstance hadd
  exact ⟨ms, ls, rss, hms, hls, hrss⟩

/-- **What is built holds what its instances ask for.** -/
theorem build_eq_ok {g : Graph} (h : build c p o = .ok g) :
    ∃ ms ls rss parts, Requested c ms ls rss ∧ Parts.Hold parts (requests ms rss) ∧
      g = ofParts c p o parts := by
  obtain ⟨ms, ls, rss, hreq⟩ := requested_of_build h
  rcases build_of_requested (p := p) (o := o) hreq with ⟨parts, hparts, hok⟩ | ⟨r, -, -, herr⟩
  · rw [hok] at h
    exact ⟨ms, ls, rss, parts, hreq, hparts, (Except.ok.inj h).symm⟩
  · rw [herr] at h
    exact nomatch h

end CollectorGraph

end Telemetry
