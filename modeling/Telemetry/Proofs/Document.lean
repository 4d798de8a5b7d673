import Mathlib.Data.List.Perm.Basic
import Telemetry.Proofs.Assembly
import Telemetry.Proofs.ComponentNames

/-!
# The document of a collector graph

In the document of a graph every service pipeline lists its components by name, and tables apart
from the pipelines say what each name stands for. A table keeps one entry for each name, so a name
that two components shared would take its settings from the wrong one.

* **`Tree.at?`**, **`Tree.keysAt`** — what a document has at the end of a path.
* **`namedPipelines_eq`** — each request becomes one pipeline whose components have names.
* **`mem_of_mem_firstUses`**, **`exists_firstUse`** — the exporters in use.
* **`Closed`**, **`document_closed`** — all that the pipelines name is there, with its own settings,
  and nothing else is.
-/

namespace Telemetry

open Failing

/-! ## Reading a tree -/

namespace Tree

/-- What a table has under a key. -/
def child? : Tree → String → Option Tree
  | sorted es, k => es.lookup k
  | _, _ => none

/-- What stands at the end of a path. -/
def at? (t : Tree) : List String → Option Tree
  | [] => some t
  | k :: path => (t.child? k).bind (·.at? path)

/-- The keys of a table. -/
def keys : Tree → List String
  | sorted es => es.map (·.1)
  | _ => []

/-- The keys of the table at the end of a path. -/
def keysAt (t : Tree) (path : List String) : List String :=
  ((t.at? path).map keys).getD []

theorem child?_table (es : List (String × Tree)) (k : String) :
    (table es).child? k = (Keyed.ofList es).get? k := rfl

/-- An entry of a table whose keys are distinct stands under its key. -/
theorem child?_of_mem {es : List (String × Tree)} {k : String} {t : Tree}
    (hn : (es.map (·.1)).Nodup) (h : (k, t) ∈ es) : (table es).child? k = some t := by
  rw [child?_table, Keyed.get?_ofList_iff hn]
  exact h

theorem keys_table (es : List (String × Tree)) : (table es).keys = (Keyed.ofList es).keys := rfl

@[simp] theorem at?_single (t : Tree) (k : String) : t.at? [k] = t.child? k := by
  rw [at?]
  cases t.child? k <;> rfl

/-- A path that is continued goes on from where the first part ends. -/
theorem at?_append {t u : Tree} {path : List String} (h : t.at? path = some u)
    (path' : List String) : t.at? (path ++ path') = u.at? path' := by
  induction path generalizing t with
  | nil =>
      obtain rfl := Option.some.inj h
      rfl
  | cons k path ih =>
      rw [List.cons_append, at?]
      rw [at?] at h
      cases he : t.child? k with
      | none =>
          rw [he] at h
          exact nomatch h
      | some v =>
          rw [he] at h
          exact ih h

theorem keysAt_eq {t u : Tree} {path : List String} (h : t.at? path = some u) :
    t.keysAt path = u.keys := by
  rw [keysAt, h]
  rfl

end Tree

namespace CollectorGraph

/-! ## Pipelines whose components have names -/

/-- What a request becomes: a pipeline whose components have names. -/
def namedFor (p : Platform) (r : PipelineRequest) : Graph.NamedPipeline where
  name := r.key
  receiver := (r.receiverName, r.receiver.receiver)
  processors := r.namedNodes ++ (Graph.detector? r.mode).toList
  target := r.target
  exporter := (exporterName p r.target, r.target.node p)

theorem get?_set {α : Type} (t : PerSignal α) (s : Signal) (a : α) :
    (t.set s a).get? s = some a := by
  cases s <;> rfl

variable {c : Config} {p : Platform} {o : CompileOptions} {parts : Parts}
  {rs : List PipelineRequest}

/-- **The pipeline of a request is found, and its components get their names.** The receiver
pipeline is there under the name of the request, it yields the signal, and the exporter is there. -/
theorem namePipeline?_eq (h : parts.Hold rs) {r : PipelineRequest} (hr : r ∈ rs) (hs : r.Sound) :
    (ofParts c p o parts).namePipeline? r.name r.service = .ok (some (namedFor p r)) := by
  have hkeys : ((rs.map fun r => (r.name, r.wired)).map (·.1)).Nodup := by
    rw [List.map_map]
    exact h.distinct
  have hrp : (ofParts c p o parts).receiverPipelines.get? r.name = some r.wired := by
    show parts.receiverPipelines.get? r.name = some r.wired
    rw [h.receiverPipelines, Keyed.get?_ofList_iff hkeys]
    exact List.mem_map.mpr ⟨r, hr, rfl⟩
  have hown : r.wired.processors.get? r.signal = some r.own := by
    obtain ⟨own, hown⟩ := Option.isSome_iff_exists.mp hs.yields
    rw [PipelineRequest.own, hown]
    exact hown
  have htarget : (r.wired.exporterTypes.get? r.signal).getD .cloudMonitoring = r.target := by
    rw [PipelineRequest.wired, get?_set]
    rfl
  -- the graph has every exporter type that some request brought with it
  have hexporter : (ofParts c p o parts).exporters r.target = some (r.target.node p) :=
    if_pos (List.contains_iff_mem.mpr ((h.exporterTypes _).mpr ⟨r, hr, rfl⟩))
  have hnodes : Graph.numbered r.name 0 r.own ++ Graph.numbered r.name r.own.length r.processors
      = r.namedNodes := by
    rw [PipelineRequest.namedNodes, PipelineRequest.nodes, Graph.numbered_append, Nat.zero_add]
  unfold Graph.namePipeline?
  simp only [PipelineRequest.service, hrp, hown, htarget, hexporter, hnodes]
  rfl

/-- **The requests become pipelines one to one**, in another order. -/
theorem namedPipelines_eq (h : parts.Hold rs) (hs : ∀ r ∈ rs, r.Sound) :
    ∃ ns, (ofParts c p o parts).namedPipelines = .ok ns ∧ ns.Perm (rs.map (namedFor p)) := by
  have hkeys : ((rs.map fun r => (r.name, r.service)).map (·.1)).Nodup := by
    rw [List.map_map]
    exact h.distinct
  have hperm : (ofParts c p o parts).pipelines.entries.Perm
      (rs.map fun r => (r.name, r.service)) := by
    show parts.pipelines.entries.Perm _
    rw [h.pipelines]
    exact Keyed.entries_ofList_perm hkeys
  have hall : List.Forall₂ (fun (e : String × ServicePipeline) n =>
      (ofParts c p o parts).namePipeline? e.1 e.2 = .ok n) (rs.map fun r => (r.name, r.service))
      (rs.map fun r => some (namedFor p r)) := by
    rw [List.forall₂_map_left_iff, List.forall₂_map_right_iff, List.forall₂_same]
    intro r hr
    exact namePipeline?_eq h hr (hs r hr)
  -- the table keeps the pipelines in the order of their names
  obtain ⟨named, hnamed, hperm'⟩ := List.perm_comp_forall₂ hperm hall
  refine ⟨named.filterMap id, bind_eq_ok.mpr ⟨named, mapM_eq_ok.mpr hnamed, rfl⟩, ?_⟩
  have hfilter := hperm'.filterMap id
  rwa [List.filterMap_map, Function.id_comp, List.filterMap_eq_map'] at hfilter

/-! ## Exporters in use -/

theorem firstUses_concat (ns : List Graph.NamedPipeline) (n : Graph.NamedPipeline) :
    Graph.firstUses (ns ++ [n]) = if (Graph.firstUses ns).any (·.target = n.target)
      then Graph.firstUses ns else Graph.firstUses ns ++ [n] := by
  rw [Graph.firstUses, List.foldl_append]
  rfl

/-- A first use is one of the pipelines. -/
theorem mem_of_mem_firstUses {ns : List Graph.NamedPipeline} {u : Graph.NamedPipeline}
    (h : u ∈ Graph.firstUses ns) : u ∈ ns := by
  induction ns using List.reverseRecOn with
  | nil => exact nomatch h
  | append_singleton ns n ih =>
      rw [firstUses_concat] at h
      split at h
      · exact List.mem_append_left _ (ih h)
      · exact List.mem_append.mpr ((List.mem_append.mp h).imp_left ih)

/-- There is a first use of the exporter of each pipeline. -/
theorem exists_firstUse {ns : List Graph.NamedPipeline} {n : Graph.NamedPipeline} (h : n ∈ ns) :
    ∃ u ∈ Graph.firstUses ns, u.target = n.target := by
  induction ns using List.reverseRecOn with
  | nil => exact nomatch h
  | append_singleton ns m ih =>
      rw [firstUses_concat]
      rcases List.mem_append.mp h with h | h
      · obtain ⟨u, hu, ht⟩ := ih h
        split
        · exact ⟨u, hu, ht⟩
        · exact ⟨u, List.mem_append_left _ hu, ht⟩
      · obtain rfl := List.mem_singleton.mp h
        split
        · rename_i hany
          obtain ⟨u, hu, ht⟩ := List.any_eq_true.mp hany
          exact ⟨u, hu, of_decide_eq_true ht⟩
        · exact ⟨n, List.mem_append_right _ (List.mem_singleton_self _), rfl⟩

/-! ## Tables of components -/

/-- The keys of a table of components are their names. -/
theorem mem_keys_componentTable {cs : List (String × Node)} {name : String} :
    name ∈ (Graph.componentTable cs).keys ↔ ∃ n, (name, n) ∈ cs := by
  rw [Graph.componentTable, Tree.keys_table, Keyed.mem_keys_ofList, List.map_map]
  simp

/-- **A component whose name is its own is defined with its own settings.** -/
theorem child?_componentTable {cs : List (String × Node)} {name : String} {n : Node}
    (h : (name, n) ∈ cs) (hone : ∀ n', (name, n') ∈ cs → n' = n) :
    (Graph.componentTable cs).child? name = some n.config := by
  rw [Graph.componentTable, Tree.child?_table]
  refine Keyed.get?_ofList (List.mem_map.mpr ⟨(name, n), h, rfl⟩) ?_
  intro config hm
  obtain ⟨⟨name', n'⟩, hn', he⟩ := List.mem_map.mp hm
  obtain ⟨rfl, rfl⟩ := Prod.mk.inj he
  rw [hone n' hn']

/-! ## Closed documents -/

/-- The processor that completes resource attributes, if there is one for the mode. -/
def detectorNode? : ResourceDetection → Option Node
  | .override => some (.resourceDetector true)
  | .setIfMissing => some (.resourceDetector false)
  | .none => none

/-- The processors of a pipeline, in the order in which the signal passes through them: those of the
receiver, those of the pipeline, and the one for resource attributes. -/
def processorChain (r : PipelineRequest) : List Node :=
  r.own ++ r.processors ++ (detectorNode? r.mode).toList

/-- The names of the processors of a pipeline. -/
def processorChainNames (r : PipelineRequest) : List String :=
  r.processorNames ++ (Graph.detector? r.mode).toList.map (·.1)

/-- The entry of a pipeline in the service part. -/
def serviceEntry (p : Platform) (r : PipelineRequest) : Tree :=
  .table [
    ("receivers", .texts [r.receiverName]),
    ("processors", .texts (processorChainNames r)),
    ("exporters", .texts [exporterName p r.target])]

/-- A document is that of some pipelines: it has an entry for each pipeline and no other; whatever
an entry names is defined, with the settings of the component for which it stands; no two components
share a name; and nothing is defined that no pipeline names. -/
structure Closed (p : Platform) (rs : List PipelineRequest) (doc : Tree) : Prop where
  keys : (rs.map (·.key)).Nodup
  pipelines : (doc.keysAt ["service", "pipelines"]).Perm (rs.map (·.key))
  entry : ∀ r ∈ rs, doc.at? ["service", "pipelines", r.key] = some (serviceEntry p r)
  receiver : ∀ r ∈ rs, doc.at? ["receivers", r.receiverName] = some r.receiver.receiver.config
  processors : ∀ r ∈ rs, List.Forall₂
    (fun name n => doc.at? ["processors", name] = some n.config)
    (processorChainNames r) (processorChain r)
  exporter : ∀ r ∈ rs,
    doc.at? ["exporters", exporterName p r.target] = some (r.target.node p).config
  distinct : (rs.map (·.receiverName) ++ rs.flatMap (·.processorNames) ++ detectorNames
    ++ exporterNames p).Nodup
  receiverUsed : ∀ name ∈ doc.keysAt ["receivers"], ∃ r ∈ rs, name = r.receiverName
  processorUsed : ∀ name ∈ doc.keysAt ["processors"], ∃ r ∈ rs, name ∈ processorChainNames r
  exporterUsed : ∀ name ∈ doc.keysAt ["exporters"], ∃ r ∈ rs, name = exporterName p r.target

/-- What a request becomes names the processors of its chain. -/
theorem map_fst_processors (r : PipelineRequest) :
    (namedFor p r).processors.map (·.1) = processorChainNames r :=
  List.map_append

theorem map_snd_processors (r : PipelineRequest) :
    (namedFor p r).processors.map (·.2) = processorChain r := by
  have hdetector : (Graph.detector? r.mode).toList.map (·.2) = (detectorNode? r.mode).toList := by
    cases r.mode <;> rfl
  show (r.namedNodes ++ _).map _ = _
  rw [List.map_append, PipelineRequest.namedNodes, Graph.map_snd_numbered, hdetector]
  rfl

/-- The processors that all pipelines share are known by their names. -/
theorem detector_inj {mode mode' : ResourceDetection} {name : String} {n n' : Node}
    (h : Graph.detector? mode = some (name, n)) (h' : Graph.detector? mode' = some (name, n')) :
    n = n' := by
  cases mode <;> cases mode' <;> simp_all [Graph.detector?, eq_comm (b := name)]

/-- **Processors of one name are one processor.** -/
theorem processor_inj (hs : ∀ r ∈ rs, r.Sound) (hn : (rs.map (·.name)).Nodup)
    {r r' : PipelineRequest} (hr : r ∈ rs) (hr' : r' ∈ rs) {name : String} {n n' : Node}
    (h : (name, n) ∈ (namedFor p r).processors) (h' : (name, n') ∈ (namedFor p r').processors) :
    n = n' := by
  -- a numbered processor and a shared one differ in type
  have hapart : ∀ q ∈ rs, ∀ m m' mode, (name, m) ∈ q.namedNodes →
      Graph.detector? mode ≠ some (name, m') := by
    intro q hq m m' mode hm hd
    have htype := (hs q hq).typeOf_processorNames name (List.mem_map.mpr ⟨_, hm, rfl⟩)
    cases mode with
    | override =>
        obtain ⟨rfl, -⟩ := Prod.mk.inj (Option.some.inj hd)
        exact absurd htype (by decide)
    | setIfMissing =>
        obtain ⟨rfl, -⟩ := Prod.mk.inj (Option.some.inj hd)
        exact absurd htype (by decide)
    | none => exact nomatch hd
  rcases List.mem_append.mp h with h | h
  · rcases List.mem_append.mp h' with h' | h'
    · obtain ⟨hname, k, hk, hk'⟩ := (hs r hr).name_eq_of_namedNodes (hs r' hr') h h'
      obtain rfl := List.inj_on_of_nodup_map hn hr hr' hname
      rw [hk] at hk'
      exact Option.some.inj hk'
    · exact absurd (Option.mem_toList.mp h') (hapart r hr _ _ _ h)
  · rcases List.mem_append.mp h' with h' | h'
    · exact absurd (Option.mem_toList.mp h) (hapart r' hr' _ _ _ h')
    · exact detector_inj (Option.mem_toList.mp h) (Option.mem_toList.mp h')

/-- Requests of different names have different keys, whatever their signals. -/
theorem nodup_keys (hn : (rs.map (·.name)).Nodup) : (rs.map (·.key)).Nodup := by
  refine List.pairwise_map.mpr ((List.pairwise_map.mp hn).imp ?_)
  intro r r' hne he
  exact hne (Text.append_sep_inj_of_first (d := '/') rfl r.signal.slash_notMem
    r'.signal.slash_notMem he).2

/-! ## The tables of a document -/

/-- A document has the tables for some named pipelines, which are those of some requests. -/
structure LaidOut (p : Platform) (rs : List PipelineRequest) (ns : List Graph.NamedPipeline)
    (doc : Tree) : Prop where
  perm : ns.Perm (rs.map (namedFor p))
  receivers : doc.at? ["receivers"] = some (Graph.componentTable (ns.map (·.receiver)))
  processors : doc.at? ["processors"] = some (Graph.componentTable (ns.flatMap (·.processors)))
  exporters : doc.at? ["exporters"]
    = some (Graph.componentTable ((Graph.firstUses ns).map (·.exporter)))
  pipelines : doc.at? ["service", "pipelines"]
    = some (.table (ns.map fun n => (n.name, n.toTree)))

/-- A document that is written for the pipelines of requests has these tables. -/
theorem laidOut_of_perm {ns : List Graph.NamedPipeline} (hperm : ns.Perm (rs.map (namedFor p)))
    (telemetry : Tree) : LaidOut p rs ns (.table [
      ("receivers", Graph.componentTable (ns.map (·.receiver))),
      ("processors", Graph.componentTable (ns.flatMap (·.processors))),
      ("exporters", Graph.componentTable ((Graph.firstUses ns).map (·.exporter))),
      ("service", .table [
        ("pipelines", .table (ns.map fun n => (n.name, n.toTree))),
        ("telemetry", telemetry)])]) := by
  refine ⟨hperm, ?_, ?_, ?_, ?_⟩
  all_goals simp [Tree.at?, Tree.child?_table, Keyed.ofList]

/-- The document of a graph has these tables. -/
theorem document_laidOut (h : parts.Hold rs) (hs : ∀ r ∈ rs, r.Sound) :
    ∃ ns doc, (ofParts c p o parts).document = .ok doc ∧ LaidOut p rs ns doc := by
  obtain ⟨ns, hns, hperm⟩ := namedPipelines_eq (c := c) (p := p) (o := o) h hs
  exact ⟨ns, _, bind_eq_ok.mpr ⟨ns, hns, rfl⟩, laidOut_of_perm hperm _⟩

namespace LaidOut

variable {ns : List Graph.NamedPipeline} {doc : Tree}

/-- The pipelines are those of the requests, up to their order. -/
theorem mem_iff (h : LaidOut p rs ns doc) {n : Graph.NamedPipeline} :
    n ∈ ns ↔ ∃ r ∈ rs, namedFor p r = n := by
  rw [h.perm.mem_iff, List.mem_map]

theorem mem (h : LaidOut p rs ns doc) {r : PipelineRequest} (hr : r ∈ rs) : namedFor p r ∈ ns :=
  h.mem_iff.mpr ⟨r, hr, rfl⟩

/-- The keys in the service part are those of the requests. -/
theorem keys_perm (h : LaidOut p rs ns doc) :
    ((ns.map fun n => (n.name, n.toTree)).map (·.1)).Perm (rs.map (·.key)) := by
  have hperm := h.perm.map (·.name)
  rw [List.map_map] at hperm
  rwa [List.map_map]

theorem keys_nodup (h : LaidOut p rs ns doc) (hn : (rs.map (·.name)).Nodup) :
    ((ns.map fun n => (n.name, n.toTree)).map (·.1)).Nodup :=
  h.keys_perm.nodup_iff.mpr (nodup_keys hn)

theorem keysAt_pipelines (h : LaidOut p rs ns doc) (hn : (rs.map (·.name)).Nodup) :
    (doc.keysAt ["service", "pipelines"]).Perm (rs.map (·.key)) := by
  rw [Tree.keysAt_eq h.pipelines, Tree.keys_table]
  exact ((Keyed.entries_ofList_perm (h.keys_nodup hn)).map (·.1)).trans h.keys_perm

/-- The entry of each pipeline names its components. -/
theorem at?_pipeline (h : LaidOut p rs ns doc) (hn : (rs.map (·.name)).Nodup) {r : PipelineRequest}
    (hr : r ∈ rs) : doc.at? ["service", "pipelines", r.key] = some (serviceEntry p r) := by
  rw [show ["service", "pipelines", r.key] = ["service", "pipelines"] ++ [r.key] from rfl,
    Tree.at?_append h.pipelines, Tree.at?_single, Tree.child?_table,
    Keyed.get?_ofList_iff (h.keys_nodup hn)]
  refine List.mem_map.mpr ⟨namedFor p r, h.mem hr, ?_⟩
  rw [Graph.NamedPipeline.toTree, map_fst_processors]
  rfl

/-- What a table of components at some place says about one of them. -/
theorem at?_component {k name : String} {cs : List (String × Node)} {n : Node}
    (hdoc : doc.at? [k] = some (Graph.componentTable cs)) (h : (name, n) ∈ cs)
    (hone : ∀ n', (name, n') ∈ cs → n' = n) : doc.at? [k, name] = some n.config := by
  rw [show [k, name] = [k] ++ [name] from rfl, Tree.at?_append hdoc, Tree.at?_single]
  exact child?_componentTable h hone

/-- The name of a receiver stands for it. -/
theorem at?_receiver (h : LaidOut p rs ns doc) (hs : ∀ r ∈ rs, r.Sound)
    (hn : (rs.map (·.name)).Nodup) {r : PipelineRequest} (hr : r ∈ rs) :
    doc.at? ["receivers", r.receiverName] = some r.receiver.receiver.config := by
  refine at?_component h.receivers (List.mem_map.mpr ⟨_, h.mem hr, rfl⟩) ?_
  intro n' hn'
  obtain ⟨_, hm, he⟩ := List.mem_map.mp hn'
  obtain ⟨r', hr', rfl⟩ := h.mem_iff.mp hm
  obtain ⟨hname, rfl⟩ := Prod.mk.inj he
  rw [List.inj_on_of_nodup_map hn hr' hr ((hs r' hr').name_eq_of_receiverName (hs r hr) hname)]

/-- The names of processors stand for them, one for one. -/
theorem at?_processors (h : LaidOut p rs ns doc) (hs : ∀ r ∈ rs, r.Sound)
    (hn : (rs.map (·.name)).Nodup) {r : PipelineRequest} (hr : r ∈ rs) :
    List.Forall₂ (fun name n => doc.at? ["processors", name] = some n.config)
      (processorChainNames r) (processorChain r) := by
  rw [← map_fst_processors (p := p), ← map_snd_processors (p := p), List.forall₂_map_left_iff,
    List.forall₂_map_right_iff, List.forall₂_same]
  rintro ⟨name, n⟩ hmem
  refine at?_component h.processors (List.mem_flatMap.mpr ⟨_, h.mem hr, hmem⟩) ?_
  intro n' hn'
  obtain ⟨_, hm, hn'⟩ := List.mem_flatMap.mp hn'
  obtain ⟨r', hr', rfl⟩ := h.mem_iff.mp hm
  exact processor_inj hs hn hr' hr hn' hmem

/-- An exporter in use is that of some request. -/
theorem exporter_iff (h : LaidOut p rs ns doc) {name : String} {n : Node} :
    (name, n) ∈ (Graph.firstUses ns).map (·.exporter) ↔
      ∃ r ∈ rs, name = exporterName p r.target ∧ n = r.target.node p := by
  constructor
  · intro hn
    obtain ⟨u, hu, he⟩ := List.mem_map.mp hn
    obtain ⟨r, hr, rfl⟩ := h.mem_iff.mp (mem_of_mem_firstUses hu)
    obtain ⟨rfl, rfl⟩ := Prod.mk.inj he
    exact ⟨r, hr, rfl, rfl⟩
  · rintro ⟨r, hr, rfl, rfl⟩
    -- the first use of this exporter may be by another pipeline
    obtain ⟨u, hu, ht⟩ := exists_firstUse (h.mem hr)
    obtain ⟨r', -, rfl⟩ := h.mem_iff.mp (mem_of_mem_firstUses hu)
    have ht' : r'.target = r.target := ht
    refine List.mem_map.mpr ⟨_, hu, ?_⟩
    rw [← ht']
    rfl

/-- The name of an exporter stands for it. -/
theorem at?_exporter (h : LaidOut p rs ns doc) {r : PipelineRequest} (hr : r ∈ rs) :
    doc.at? ["exporters", exporterName p r.target] = some (r.target.node p).config := by
  refine at?_component h.exporters (h.exporter_iff.mpr ⟨r, hr, rfl, rfl⟩) ?_
  intro n' hn'
  obtain ⟨r', -, hname, rfl⟩ := h.exporter_iff.mp hn'
  rw [exporterName_injective hname]

theorem receiverUsed (h : LaidOut p rs ns doc) :
    ∀ name ∈ doc.keysAt ["receivers"], ∃ r ∈ rs, name = r.receiverName := by
  intro name hname
  rw [Tree.keysAt_eq h.receivers] at hname
  obtain ⟨n, hn⟩ := mem_keys_componentTable.mp hname
  obtain ⟨_, hm, he⟩ := List.mem_map.mp hn
  obtain ⟨r, hr, rfl⟩ := h.mem_iff.mp hm
  exact ⟨r, hr, (congrArg Prod.fst he).symm⟩

theorem processorUsed (h : LaidOut p rs ns doc) :
    ∀ name ∈ doc.keysAt ["processors"], ∃ r ∈ rs, name ∈ processorChainNames r := by
  intro name hname
  rw [Tree.keysAt_eq h.processors] at hname
  obtain ⟨n, hn⟩ := mem_keys_componentTable.mp hname
  obtain ⟨_, hm, hn⟩ := List.mem_flatMap.mp hn
  obtain ⟨r, hr, rfl⟩ := h.mem_iff.mp hm
  refine ⟨r, hr, ?_⟩
  rw [← map_fst_processors (p := p)]
  exact List.mem_map.mpr ⟨_, hn, rfl⟩

theorem exporterUsed (h : LaidOut p rs ns doc) :
    ∀ name ∈ doc.keysAt ["exporters"], ∃ r ∈ rs, name = exporterName p r.target := by
  intro name hname
  rw [Tree.keysAt_eq h.exporters] at hname
  obtain ⟨n, hn⟩ := mem_keys_componentTable.mp hname
  obtain ⟨r, hr, hname', -⟩ := h.exporter_iff.mp hn
  exact ⟨r, hr, hname'⟩

end LaidOut

/-- **The document of a graph that holds what some requests ask for** is theirs, and is closed. -/
theorem document_closed (h : parts.Hold rs) (hs : ∀ r ∈ rs, r.Sound) :
    ∃ doc, (ofParts c p o parts).document = .ok doc ∧ Closed p rs doc := by
  obtain ⟨ns, doc, hdoc, hout⟩ := document_laidOut (c := c) (p := p) (o := o) h hs
  refine ⟨doc, hdoc, ?_⟩
  constructor
  case keys => exact nodup_keys h.distinct
  case pipelines => exact hout.keysAt_pipelines h.distinct
  case entry => exact fun r hr => hout.at?_pipeline h.distinct hr
  case receiver => exact fun r hr => hout.at?_receiver hs h.distinct hr
  case processors => exact fun r hr => hout.at?_processors hs h.distinct hr
  case exporter => exact fun r hr => hout.at?_exporter hr
  case distinct => exact nodup_componentNames hs h.distinct p
  case receiverUsed => exact hout.receiverUsed
  case processorUsed => exact hout.processorUsed
  case exporterUsed => exact hout.exporterUsed

end CollectorGraph

end Telemetry
