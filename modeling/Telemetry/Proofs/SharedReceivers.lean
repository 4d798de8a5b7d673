import Telemetry.Proofs.Document

/-!
# Receivers that several pipelines share

A graph can have several pipelines over one receiver pipeline, and the names of its processors are
made from the name of the receiver pipeline or of the pipeline, and a number. The signal is not in
them, and both kinds of names are in one table; so two processors can have one name, and then the
table has the settings of the later one.

* **`Graph.Placed`** — where the processors of a graph stand: each under a stem, with a number.
* **`Graph.keeps_iff_agree`** — all pipelines have their own processors exactly if processors of one
  name have the same settings.
* **`Graph.Apart.agree`** — so it is where a receiver pipeline is used for one signal and a pipeline
  named like a receiver pipeline reads from this one.
* **`Graph.not_keepsProcessors`** — pipelines for two signals over one receiver, and a pipeline with
  the name of another's receiver pipeline.
-/

namespace Telemetry

open Failing

/-- How resource attributes of a signal are completed. -/
def ReceiverPipeline.mode (rp : ReceiverPipeline) (signal : Signal) : ResourceDetection :=
  (rp.resourceDetection.get? signal).getD .override

namespace Graph

/-! ## Pipelines that are emitted -/

/-- A pipeline of a graph is emitted: its receiver pipeline yields its signal, through some
processors of its own. -/
structure Emits (g : Graph) (name : String) (p : ServicePipeline) (rp : ReceiverPipeline)
    (own : List Node) : Prop where
  pipeline : g.pipelines.get? name = some p
  receiver : g.receiverPipelines.get? p.receiverPipeline = some rp
  yields : rp.processors.get? p.signal = some own

/-- The key of a pipeline in the service part. -/
def pipelineKey (name : String) (p : ServicePipeline) : String :=
  p.signal.name ++ "/" ++ name

/-- The processors of a pipeline that is emitted, under their names. -/
def chain (name : String) (p : ServicePipeline) (rp : ReceiverPipeline) (own : List Node) :
    List (String × Node) :=
  numbered p.receiverPipeline 0 own ++ numbered name own.length p.processors
    ++ (detector? (rp.mode p.signal)).toList

/-- The processors through which a pipeline passes its signal: those of the receiver pipeline for
this signal, its own, and the one that completes resource attributes. -/
def passed (p : ServicePipeline) (rp : ReceiverPipeline) (own : List Node) : List Node :=
  own ++ p.processors ++ (detector? (rp.mode p.signal)).toList.map (·.2)

variable {g : Graph} {name : String} {p : ServicePipeline} {rp : ReceiverPipeline} {own : List Node}

theorem map_snd_chain (name : String) (p : ServicePipeline) (rp : ReceiverPipeline)
    (own : List Node) : (chain name p rp own).map (·.2) = passed p rp own := by
  rw [chain, passed, List.map_append, List.map_append, map_snd_numbered, map_snd_numbered]

/-- A pipeline is emitted with the processors of one receiver pipeline. -/
theorem Emits.unique {p' : ServicePipeline} {rp' : ReceiverPipeline} {own' : List Node}
    (h : g.Emits name p rp own) (h' : g.Emits name p' rp' own') :
    p = p' ∧ rp = rp' ∧ own = own' := by
  obtain rfl := Option.some.inj (h.pipeline.symm.trans h'.pipeline)
  obtain rfl := Option.some.inj (h.receiver.symm.trans h'.receiver)
  exact ⟨rfl, rfl, Option.some.inj (h.yields.symm.trans h'.yields)⟩

/-- What a pipeline that is emitted becomes has the names of its chain. -/
theorem Emits.named {x : Option NamedPipeline} (h : g.Emits name p rp own)
    (hx : g.namePipeline? name p = .ok x) :
    ∃ n, x = some n ∧ n.name = pipelineKey name p ∧ n.processors = chain name p rp own := by
  unfold namePipeline? at hx
  simp only [h.receiver, h.yields] at hx
  split at hx
  · exact nomatch hx
  · exact ⟨_, (Except.ok.inj hx).symm, rfl, rfl⟩

/-- A pipeline that gets names is emitted. -/
theorem exists_emits (hp : g.pipelines.get? name = some p) {n : NamedPipeline}
    (hn : g.namePipeline? name p = .ok (some n)) : ∃ rp own, g.Emits name p rp own := by
  unfold namePipeline? at hn
  split at hn
  · exact nomatch hn
  · rename_i rp hrp
    split at hn
    · exact nomatch hn
    · rename_i own hown
      exact ⟨rp, own, hp, hrp, hown⟩

/-- The pipelines that are emitted are those that got names. -/
theorem mem_namedPipelines {ns : List NamedPipeline} (h : g.namedPipelines = .ok ns)
    {n : NamedPipeline} :
    n ∈ ns ↔ ∃ name p, g.pipelines.get? name = some p ∧ g.namePipeline? name p = .ok (some n) := by
  obtain ⟨named, hnamed, hns⟩ := bind_eq_ok.mp h
  obtain rfl := Except.ok.inj hns
  rw [List.mem_filterMap]
  constructor
  · rintro ⟨x, hx, hid⟩
    obtain rfl : x = some n := hid
    obtain ⟨⟨name, p⟩, hp, hname⟩ := exists_of_mem_mapM hnamed hx
    exact ⟨name, p, Keyed.mem_entries_iff.mp hp, hname⟩
  · rintro ⟨name, p, hp, hname⟩
    obtain ⟨x, hx, hname'⟩ :=
      exists_of_mem_forall₂ (mapM_eq_ok.mp hnamed).flip (Keyed.mem_entries_iff.mpr hp)
    exact ⟨x, hx, Except.ok.inj (hname'.symm.trans hname)⟩

/-- A pipeline that is emitted is among those that got names. -/
theorem Emits.exists_named {ns : List NamedPipeline} (h : g.Emits name p rp own)
    (hns : g.namedPipelines = .ok ns) :
    ∃ n ∈ ns, n.name = pipelineKey name p ∧ n.processors = chain name p rp own := by
  obtain ⟨named, hnamed, -⟩ := bind_eq_ok.mp hns
  obtain ⟨x, -, hx⟩ :=
    exists_of_mem_forall₂ (mapM_eq_ok.mp hnamed).flip (Keyed.mem_entries_iff.mpr h.pipeline)
  obtain ⟨n, rfl, hname, hprocessors⟩ := h.named hx
  exact ⟨n, (mem_namedPipelines hns).mpr ⟨name, p, h.pipeline, hx⟩, hname, hprocessors⟩

/-- A pipeline that got names is one that is emitted. -/
theorem emits_of_mem {ns : List NamedPipeline} (hns : g.namedPipelines = .ok ns)
    {n : NamedPipeline} (hn : n ∈ ns) : ∃ name p rp own, g.Emits name p rp own ∧
      g.namePipeline? name p = .ok (some n) ∧ n.name = pipelineKey name p ∧
      n.processors = chain name p rp own := by
  obtain ⟨name, p, hp, hx⟩ := (mem_namedPipelines hns).mp hn
  obtain ⟨rp, own, he⟩ := exists_emits hp hx
  obtain ⟨_, hsome, hname, hprocessors⟩ := he.named hx
  obtain rfl := Option.some.inj hsome
  exact ⟨name, p, rp, own, he, hx, hname, hprocessors⟩

/-- The key of a pipeline tells its name. -/
theorem pipelineKey_inj {name' : String} {p' : ServicePipeline}
    (h : pipelineKey name p = pipelineKey name' p') : name = name' :=
  (Text.append_sep_inj_of_first (d := '/') rfl p.signal.slash_notMem p'.signal.slash_notMem h).2

/-- Pipelines with names are known by their keys. -/
theorem eq_of_name_eq {ns : List NamedPipeline} (hns : g.namedPipelines = .ok ns)
    {n n' : NamedPipeline} (hn : n ∈ ns) (hn' : n' ∈ ns) (h : n.name = n'.name) : n = n' := by
  obtain ⟨name, p, _, _, he, hx, hname, -⟩ := emits_of_mem hns hn
  obtain ⟨name', p', _, _, he', hx', hname', -⟩ := emits_of_mem hns hn'
  rw [hname, hname'] at h
  obtain rfl := pipelineKey_inj h
  obtain rfl := Option.some.inj (he.pipeline.symm.trans he'.pipeline)
  exact Option.some.inj (Except.ok.inj (hx.symm.trans hx'))

/-! ## The tables of the document -/

section Document

variable {doc : Tree} (h : g.document = .ok doc)
include h

/-- The document of a graph has tables for the pipelines that got names. -/
theorem document_tables :
    ∃ ns, g.namedPipelines = .ok ns ∧
      doc.at? ["processors"] = some (componentTable (ns.flatMap (·.processors))) ∧
      doc.at? ["service", "pipelines"] = some (.table (ns.map fun n => (n.name, n.toTree))) := by
  obtain ⟨ns, hns, hdoc⟩ := bind_eq_ok.mp h
  obtain rfl := Except.ok.inj hdoc
  refine ⟨ns, hns, ?_, ?_⟩
  all_goals simp [Tree.at?, Tree.child?_table, Keyed.ofList]

/-- The entry of a pipeline lists the names of its processors. -/
theorem at?_listed (he : g.Emits name p rp own) :
    doc.at? ["service", "pipelines", pipelineKey name p, "processors"]
      = some (.texts ((chain name p rp own).map (·.1))) := by
  obtain ⟨ns, hns, -, hpipelines⟩ := document_tables h
  obtain ⟨n, hn, hname, hprocessors⟩ := he.exists_named hns
  have hentry : (Tree.table (ns.map fun n => (n.name, n.toTree))).child? (pipelineKey name p)
      = some n.toTree := by
    refine Keyed.get?_ofList (List.mem_map.mpr ⟨n, hn, by rw [hname]⟩) ?_
    intro t ht
    obtain ⟨n', hn', he⟩ := List.mem_map.mp ht
    obtain ⟨hname', rfl⟩ := Prod.mk.inj he
    rw [eq_of_name_eq hns hn' hn (hname'.trans hname.symm)]
  rw [show ["service", "pipelines", pipelineKey name p, "processors"]
      = ["service", "pipelines"] ++ [pipelineKey name p, "processors"] from rfl,
    Tree.at?_append hpipelines, Tree.at?, hentry, ← hprocessors]
  simp [NamedPipeline.toTree, Tree.child?_table, Keyed.ofList]

/-- The name of a processor is defined, with the settings of a processor of this name. -/
theorem at?_defined (he : g.Emits name p rp own) {pname : String} {n : Node}
    (hn : (pname, n) ∈ chain name p rp own) :
    ∃ name' p' rp' own' n', g.Emits name' p' rp' own' ∧ (pname, n') ∈ chain name' p' rp' own' ∧
      doc.at? ["processors", pname] = some n'.config := by
  obtain ⟨ns, hns, hprocessors, -⟩ := document_tables h
  obtain ⟨m, hm, -, hchain⟩ := he.exists_named hns
  have hkey : pname ∈ (componentTable (ns.flatMap (·.processors))).keys :=
    CollectorGraph.mem_keys_componentTable.mpr ⟨n, List.mem_flatMap.mpr ⟨m, hm, hchain ▸ hn⟩⟩
  rw [componentTable, Tree.keys_table] at hkey
  obtain ⟨config, hconfig⟩ := Keyed.mem_keys_iff.mp hkey
  obtain ⟨⟨pname', n'⟩, hn', he'⟩ := List.mem_map.mp (Keyed.mem_of_get?_ofList hconfig)
  obtain ⟨hpname, rfl⟩ := Prod.mk.inj he'
  obtain rfl : pname = pname' := hpname.symm
  obtain ⟨m', hm', hn'⟩ := List.mem_flatMap.mp hn'
  obtain ⟨name', p', rp', own', hemits, -, -, hchain'⟩ := emits_of_mem hns hm'
  refine ⟨name', p', rp', own', n', hemits, hchain' ▸ hn', ?_⟩
  rw [show ["processors", pname] = ["processors"] ++ [pname] from rfl, Tree.at?_append hprocessors,
    Tree.at?_single]
  exact hconfig

end Document

/-! ## Where processors stand -/

/-- The name of a processor under a stem and with a number. -/
def placeName (stem : String) (k : Nat) (n : Node) : String :=
  n.instanceName (stem ++ "_" ++ Text.decimal k)

/-- The processors of the pipelines that are emitted stand under stems, with numbers. -/
inductive Placed (g : Graph) : String → Nat → Node → Prop
  /-- Those of a receiver pipeline stand under its name. -/
  | receiver {name : String} {p : ServicePipeline} {rp : ReceiverPipeline} {own : List Node}
      {k : Nat} {n : Node} (h : g.Emits name p rp own) (hn : own[k]? = some n) :
      Placed g p.receiverPipeline k n
  /-- Those of a pipeline stand under its own, with numbers behind those of the receiver pipeline. -/
  | pipeline {name : String} {p : ServicePipeline} {rp : ReceiverPipeline} {own : List Node}
      {k : Nat} {n : Node} (h : g.Emits name p rp own) (hn : p.processors[k]? = some n) :
      Placed g name (own.length + k) n
  | override {name : String} {p : ServicePipeline} {rp : ReceiverPipeline} {own : List Node}
      (h : g.Emits name p rp own) (hm : rp.mode p.signal = .override) :
      Placed g "_global" 0 (.resourceDetector true)
  | setIfMissing {name : String} {p : ServicePipeline} {rp : ReceiverPipeline} {own : List Node}
      (h : g.Emits name p rp own) (hm : rp.mode p.signal = .setIfMissing) :
      Placed g "_global" 1 (.resourceDetector false)

variable {stem stem' : String} {k k' : Nat} {n n' : Node}

/-- The processors of a chain are placed, and have the names of their places. -/
theorem Emits.exists_placed (h : g.Emits name p rp own) {pname : String}
    (hn : (pname, n) ∈ chain name p rp own) :
    ∃ stem k, g.Placed stem k n ∧ pname = placeName stem k n := by
  rcases List.mem_append.mp hn with hn | hn
  · rcases List.mem_append.mp hn with hn | hn
    · obtain ⟨k, hk, hname⟩ := mem_numbered.mp hn
      rw [Nat.zero_add] at hname
      exact ⟨_, k, .receiver h hk, hname⟩
    · obtain ⟨k, hk, hname⟩ := mem_numbered.mp hn
      exact ⟨_, _, .pipeline h hk, hname⟩
  · cases hm : rp.mode p.signal with
    | override =>
        rw [hm] at hn
        obtain ⟨rfl, rfl⟩ := Prod.mk.inj (List.mem_singleton.mp hn)
        exact ⟨"_global", 0, .override h hm, rfl⟩
    | setIfMissing =>
        rw [hm] at hn
        obtain ⟨rfl, rfl⟩ := Prod.mk.inj (List.mem_singleton.mp hn)
        exact ⟨"_global", 1, .setIfMissing h hm, rfl⟩
    | none =>
        rw [hm] at hn
        exact nomatch hn

/-- What is placed is in the chain of a pipeline. -/
theorem Placed.exists_chain (h : g.Placed stem k n) :
    ∃ name p rp own, g.Emits name p rp own ∧ (placeName stem k n, n) ∈ chain name p rp own := by
  cases h with
  | receiver he hn =>
      refine ⟨_, _, _, _, he, List.mem_append_left _ (List.mem_append_left _ ?_)⟩
      exact mem_numbered.mpr ⟨k, hn, by rw [Nat.zero_add, placeName]⟩
  | pipeline he hn =>
      refine ⟨_, _, _, _, he, List.mem_append_left _ (List.mem_append_right _ ?_)⟩
      exact mem_numbered.mpr ⟨_, hn, rfl⟩
  | override he hm =>
      refine ⟨_, _, _, _, he, List.mem_append_right _ ?_⟩
      rw [hm]
      exact List.mem_singleton.mpr (Prod.ext rfl rfl)
  | setIfMissing he hm =>
      refine ⟨_, _, _, _, he, List.mem_append_right _ ?_⟩
      rw [hm]
      exact List.mem_singleton.mpr (Prod.ext rfl rfl)

/-- Where types have no slash, a name tells the type and the place. -/
theorem placeName_inj_iff (hn : '/' ∉ n.typeName.toList) (hn' : '/' ∉ n'.typeName.toList) :
    placeName stem k n = placeName stem' k' n' ↔
      n.typeName = n'.typeName ∧ stem = stem' ∧ k = k' := by
  constructor
  · intro h
    have htype := congrArg Node.typeOf h
    rw [placeName, placeName, Node.typeOf_instanceName hn, Node.typeOf_instanceName hn'] at htype
    exact ⟨htype, numbered_inj hn hn' h⟩
  · rintro ⟨htype, rfl, rfl⟩
    rw [placeName, placeName, Node.instanceName, Node.instanceName, htype]

/-! ## Whether pipelines keep their processors -/

/-- **Every pipeline that is emitted keeps its processors:** its entry lists as many names as it has
processors, and in the document each name has the settings of the processor at its place. -/
def KeepsProcessors (g : Graph) (doc : Tree) : Prop :=
  ∀ name p rp own, g.Emits name p rp own →
    ∃ names, doc.at? ["service", "pipelines", pipelineKey name p, "processors"]
        = some (.texts names) ∧
      List.Forall₂ (fun pname n => doc.at? ["processors", pname] = some n.config) names
        (passed p rp own)

/-- Processors of one name have the same settings. -/
def Agree (g : Graph) : Prop :=
  ∀ stem k n stem' k' n', g.Placed stem k n → g.Placed stem' k' n' →
    placeName stem k n = placeName stem' k' n' → n.config = n'.config

theorem texts_injective {xs ys : List String} (h : Tree.texts xs = .texts ys) : xs = ys := by
  have htext : Function.Injective Tree.text := fun _ _ => Tree.text.inj
  exact htext.list_map (Tree.list.inj h)

/-- Where pipelines keep their processors, the name of a place has the settings of what stands
there. -/
theorem KeepsProcessors.at?_placeName {doc : Tree} (h : g.document = .ok doc)
    (hk : g.KeepsProcessors doc) (hn : g.Placed stem k n) :
    doc.at? ["processors", placeName stem k n] = some n.config := by
  obtain ⟨name, p, rp, own, he, hchain⟩ := hn.exists_chain
  obtain ⟨names, hlisted, hnames⟩ := hk name p rp own he
  obtain rfl := texts_injective (Option.some.inj (hlisted.symm.trans (at?_listed h he)))
  rw [← map_snd_chain name, List.forall₂_map_left_iff, List.forall₂_map_right_iff,
    List.forall₂_same] at hnames
  exact hnames _ hchain

/-- **Pipelines keep their processors exactly if processors of one name agree.** -/
theorem keeps_iff_agree {doc : Tree} (h : g.document = .ok doc) :
    g.KeepsProcessors doc ↔ g.Agree := by
  constructor
  · intro hk stem k n stem' k' n' hn hn' hname
    have hsettings := hk.at?_placeName h hn
    rw [hname, hk.at?_placeName h hn'] at hsettings
    exact (Option.some.inj hsettings).symm
  · intro hagree name p rp own he
    refine ⟨_, at?_listed h he, ?_⟩
    rw [← map_snd_chain name, List.forall₂_map_left_iff, List.forall₂_map_right_iff,
      List.forall₂_same]
    rintro ⟨pname, n⟩ hn
    obtain ⟨_, _, _, _, n', he', hn', hdefined⟩ := at?_defined h he hn
    obtain ⟨stem, k, hplaced, hname⟩ := he.exists_placed hn
    obtain ⟨stem', k', hplaced', hname'⟩ := he'.exists_placed hn'
    rw [hagree _ _ _ _ _ _ hplaced hplaced' (hname.symm.trans hname')]
    exact hdefined

/-! ## Pipelines that keep apart -/

/-- The names of a graph keep its processors apart: all pipelines over one receiver pipeline have one
signal, a pipeline with the name of a receiver pipeline in use reads from this one, no name is that
of the shared processors, and no type has a slash. -/
structure Apart (g : Graph) : Prop where
  oneSignal : ∀ name p rp own name' p' rp' own', g.Emits name p rp own →
    g.Emits name' p' rp' own' → p.receiverPipeline = p'.receiverPipeline → p.signal = p'.signal
  namesakes : ∀ name p rp own name' p' rp' own', g.Emits name p rp own →
    g.Emits name' p' rp' own' → name = p'.receiverPipeline → p.receiverPipeline = name
  notGlobal : ∀ name p rp own, g.Emits name p rp own →
    name ≠ "_global" ∧ p.receiverPipeline ≠ "_global"
  noSlash : ∀ stem k n, g.Placed stem k n → '/' ∉ n.typeName.toList

namespace Apart

variable {name' : String} {p' : ServicePipeline} {rp' : ReceiverPipeline} {own' : List Node}

/-- All pipelines over one receiver pipeline have the same processors from it. -/
theorem own_eq (h : g.Apart) (he : g.Emits name p rp own) (he' : g.Emits name' p' rp' own')
    (hrp : p.receiverPipeline = p'.receiverPipeline) : own = own' := by
  have hreceiver := he.receiver
  rw [hrp] at hreceiver
  obtain rfl := Option.some.inj (hreceiver.symm.trans he'.receiver)
  have hyields := he.yields
  rw [h.oneSignal _ _ _ _ _ _ _ _ he he' hrp] at hyields
  exact Option.some.inj (hyields.symm.trans he'.yields)

/-- A processor of a receiver pipeline stands at another place than those of pipelines. -/
theorem receiver_ne_pipeline (h : g.Apart) (he : g.Emits name p rp own) (hn : own[k]? = some n)
    (he' : g.Emits name' p' rp' own') (hstem : p.receiverPipeline = name') :
    k ≠ own'.length + k' := by
  rintro rfl
  -- the pipeline reads from its namesake, and its numbers begin behind those of the latter
  have hrp := h.namesakes _ _ _ _ _ _ _ _ he' he hstem.symm
  obtain rfl := h.own_eq he he' (hstem.trans hrp.symm)
  rw [List.getElem?_eq_none (Nat.le_add_right _ _)] at hn
  exact nomatch hn

/-- At a place stands one processor. -/
theorem placed_unique (h : g.Apart) (hn : g.Placed stem k n) (hn' : g.Placed stem' k' n')
    (hstem : stem = stem') (hk : k = k') : n = n' := by
  cases hn with
  | receiver he hn =>
      cases hn' with
      | receiver he' hn' =>
          obtain rfl := h.own_eq he he' hstem
          rw [hk, hn'] at hn
          exact (Option.some.inj hn).symm
      | pipeline he' hn' => exact absurd hk (h.receiver_ne_pipeline he hn he' hstem)
      | override he' _ => exact absurd hstem (h.notGlobal _ _ _ _ he).2
      | setIfMissing he' _ => exact absurd hstem (h.notGlobal _ _ _ _ he).2
  | pipeline he hn =>
      cases hn' with
      | receiver he' hn' => exact absurd hk.symm (h.receiver_ne_pipeline he' hn' he hstem.symm)
      | pipeline he' hn' =>
          obtain rfl := hstem
          obtain ⟨rfl, rfl, rfl⟩ := he.unique he'
          rw [Nat.add_left_cancel hk, hn'] at hn
          exact (Option.some.inj hn).symm
      | override he' _ => exact absurd hstem (h.notGlobal _ _ _ _ he).1
      | setIfMissing he' _ => exact absurd hstem (h.notGlobal _ _ _ _ he).1
  | override he _ =>
      cases hn' with
      | receiver he' hn' => exact absurd hstem.symm (h.notGlobal _ _ _ _ he').2
      | pipeline he' hn' => exact absurd hstem.symm (h.notGlobal _ _ _ _ he').1
      | override _ _ => rfl
      | setIfMissing _ _ => exact absurd hk (by decide)
  | setIfMissing he _ =>
      cases hn' with
      | receiver he' hn' => exact absurd hstem.symm (h.notGlobal _ _ _ _ he').2
      | pipeline he' hn' => exact absurd hstem.symm (h.notGlobal _ _ _ _ he').1
      | override _ _ => exact absurd hk (by decide)
      | setIfMissing _ _ => rfl

/-- **Where the names keep processors apart, those of one name agree.** -/
theorem agree (h : g.Apart) : g.Agree := by
  intro stem k n stem' k' n' hn hn' hname
  obtain ⟨-, hstem, hk⟩ :=
    (placeName_inj_iff (h.noSlash _ _ _ hn) (h.noSlash _ _ _ hn')).mp hname
  rw [h.placed_unique hn hn' hstem hk]

end Apart

/-! ## The result -/

/-- **Whether shared receiver pipelines keep their processors.** For a graph that has a document:

* All pipelines that are emitted keep their processors if and only if processors of one name have
  the same settings, for whichever pipelines, signals and positions they have it.
* Processors whose types have no slash have one name if and only if they have one type, one stem and
  one number: the signal does not count, nor whether the stem is a pipeline or a receiver pipeline.
* So they keep them where the pipelines over each receiver pipeline have one signal, and pipelines
  with the name of a receiver pipeline in use read from this one.
* In any case, the entry of a pipeline has a name for each processor in order, and each name is
  defined with the settings of a processor of this name. -/
theorem keepsProcessors_iff {g : Graph} {doc : Tree} (h : g.document = .ok doc) :
    (g.KeepsProcessors doc ↔ ∀ stem k n stem' k' n', g.Placed stem k n → g.Placed stem' k' n' →
      placeName stem k n = placeName stem' k' n' → n.config = n'.config) ∧
    (∀ stem k (n : Node) stem' k' (n' : Node), '/' ∉ n.typeName.toList → '/' ∉ n'.typeName.toList →
      (placeName stem k n = placeName stem' k' n' ↔
        n.typeName = n'.typeName ∧ stem = stem' ∧ k = k')) ∧
    (g.Apart → g.KeepsProcessors doc) ∧
    ∀ name p rp own, g.Emits name p rp own →
      doc.at? ["service", "pipelines", pipelineKey name p, "processors"]
        = some (.texts ((chain name p rp own).map (·.1))) ∧
      (chain name p rp own).map (·.2) = passed p rp own ∧
      ∀ x ∈ chain name p rp own, ∃ stem k n, g.Placed stem k n ∧ x.1 = placeName stem k n ∧
        doc.at? ["processors", x.1] = some n.config := by
  refine ⟨keeps_iff_agree h, ?_, fun hapart => (keeps_iff_agree h).mpr hapart.agree, ?_⟩
  · intro stem k n stem' k' n' hn hn'
    exact placeName_inj_iff hn hn'
  · intro name p rp own he
    refine ⟨at?_listed h he, map_snd_chain name p rp own, ?_⟩
    rintro ⟨pname, n⟩ hn
    obtain ⟨_, _, _, _, n', he', hn', hdefined⟩ := at?_defined h he hn
    obtain ⟨stem, k, hplaced, hname⟩ := he'.exists_placed hn'
    exact ⟨stem, k, n', hplaced, hname, hdefined⟩

/-- A filter that keeps one metric. -/
def keepOnly (metric : String) : Node :=
  .metricsFilter "include" "strict" [metric]

/-- A receiver that yields metrics through some filters. -/
def yieldsMetrics (own : List Node) : ReceiverPipeline where
  receiver := ⟨"hostmetrics", .table []⟩
  processors := .single .metrics own

/-- A graph with one exporter. -/
def withExporter (receiverPipelines : List (String × ReceiverPipeline))
    (pipelines : List (String × ServicePipeline)) : Graph where
  logLevel := "info"
  receiverPipelines := .ofList receiverPipelines
  pipelines := .ofList pipelines
  exporters _ := some ⟨"googlecloud", .table []⟩

/-- Two pipelines over one receiver pipeline, one of them with its name. -/
def sharedReceiver : Graph :=
  withExporter [("r", yieldsMetrics [keepOnly "a"])]
    [("r", ⟨.metrics, "r", [keepOnly "b"]⟩), ("s", ⟨.metrics, "r", [keepOnly "c"]⟩)]

/-- The pipelines of `sharedReceiver` that are emitted. -/
theorem sharedReceiver_emits (h : sharedReceiver.Emits name p rp own) :
    (name = "r" ∧ p = ⟨.metrics, "r", [keepOnly "b"]⟩ ∨
      name = "s" ∧ p = ⟨.metrics, "r", [keepOnly "c"]⟩) ∧ own = [keepOnly "a"] := by
  have hpipeline := Keyed.mem_of_get?_ofList h.pipeline
  have hreceiver := Keyed.mem_of_get?_ofList h.receiver
  have hyields := h.yields
  obtain ⟨-, rfl⟩ := Prod.mk.inj (List.mem_singleton.mp hreceiver)
  rcases List.mem_pair.mp hpipeline with hp | hp
  · obtain ⟨rfl, rfl⟩ := Prod.mk.inj hp
    exact ⟨.inl ⟨rfl, rfl⟩, (Option.some.inj hyields).symm⟩
  · obtain ⟨rfl, rfl⟩ := Prod.mk.inj hp
    exact ⟨.inr ⟨rfl, rfl⟩, (Option.some.inj hyields).symm⟩

theorem sharedReceiver_apart : sharedReceiver.Apart where
  oneSignal := by
    intro name p rp own name' p' rp' own' h h' _
    obtain ⟨⟨-, rfl⟩ | ⟨-, rfl⟩, -⟩ := sharedReceiver_emits h <;>
      obtain ⟨⟨-, rfl⟩ | ⟨-, rfl⟩, -⟩ := sharedReceiver_emits h' <;> rfl
  namesakes := by
    intro name p rp own name' p' rp' own' h h' hname
    obtain ⟨⟨rfl, rfl⟩ | ⟨rfl, rfl⟩, -⟩ := sharedReceiver_emits h <;>
      obtain ⟨⟨-, rfl⟩ | ⟨-, rfl⟩, -⟩ := sharedReceiver_emits h' <;>
      first | rfl | exact absurd hname (by decide)
  notGlobal := by
    intro name p rp own h
    obtain ⟨⟨rfl, rfl⟩ | ⟨rfl, rfl⟩, -⟩ := sharedReceiver_emits h <;> decide
  noSlash := by
    have hslash : ∀ m, '/' ∉ (keepOnly m).typeName.toList := fun m => by
      rw [show (keepOnly m).typeName = "filter" from rfl]
      decide
    intro stem k n h
    cases h with
    | receiver h hn =>
        obtain ⟨-, rfl⟩ := sharedReceiver_emits h
        rw [List.mem_singleton.mp (List.mem_of_getElem? hn)]
        exact hslash _
    | pipeline h hn =>
        obtain ⟨⟨-, rfl⟩ | ⟨-, rfl⟩, -⟩ := sharedReceiver_emits h
        · rw [List.mem_singleton.mp (List.mem_of_getElem? hn)]
          exact hslash _
        · rw [List.mem_singleton.mp (List.mem_of_getElem? hn)]
          exact hslash _
    | override _ _ => decide
    | setIfMissing _ _ => decide

theorem keepsProcessors_iff_sharedReceiver :
    ∃ doc, sharedReceiver.document = .ok doc ∧ sharedReceiver.KeepsProcessors doc ∧
      doc.at? ["service", "pipelines", "metrics/r", "processors"]
        = some (.texts ["filter/r_0", "filter/r_1", "resourcedetection/_global_0"]) ∧
      doc.at? ["service", "pipelines", "metrics/s", "processors"]
        = some (.texts ["filter/r_0", "filter/s_1", "resourcedetection/_global_0"]) := by
  obtain ⟨doc, h⟩ : ∃ doc, sharedReceiver.document = .ok doc := exists_of_isOk rfl
  obtain ⟨-, -, hapart, hlisted⟩ := keepsProcessors_iff h
  have hr : sharedReceiver.Emits "r" ⟨.metrics, "r", [keepOnly "b"]⟩ (yieldsMetrics [keepOnly "a"])
      [keepOnly "a"] := ⟨rfl, rfl, rfl⟩
  have hs : sharedReceiver.Emits "s" ⟨.metrics, "r", [keepOnly "c"]⟩ (yieldsMetrics [keepOnly "a"])
      [keepOnly "a"] := ⟨rfl, rfl, rfl⟩
  have hnames : (chain "r" ⟨.metrics, "r", [keepOnly "b"]⟩ (yieldsMetrics [keepOnly "a"])
      [keepOnly "a"]).map (·.1) = ["filter/r_0", "filter/r_1", "resourcedetection/_global_0"] := by
    rfl
  have hnames' : (chain "s" ⟨.metrics, "r", [keepOnly "c"]⟩ (yieldsMetrics [keepOnly "a"])
      [keepOnly "a"]).map (·.1) = ["filter/r_0", "filter/s_1", "resourcedetection/_global_0"] := by
    rfl
  refine ⟨doc, h, hapart sharedReceiver_apart, ?_, ?_⟩
  · rw [← hnames]
    exact (hlisted _ _ _ _ hr).1
  · rw [← hnames']
    exact (hlisted _ _ _ _ hs).1

/-- The metric that a filter keeps can be read off its settings. -/
theorem keepOnly_inj {m m' : String} (h : (keepOnly m).config = (keepOnly m').config) : m = m' := by
  have hat : ∀ m, (keepOnly m).config.at? ["metrics", "include", "metric_names"]
      = some (.texts [m]) := by
    intro m
    simp [keepOnly, Node.metricsFilter, Tree.at?, Tree.child?_table, Keyed.ofList]
  have hnames := congrArg (·.at? ["metrics", "include", "metric_names"]) h
  simp only [hat] at hnames
  exact (List.cons.inj (texts_injective (Option.some.inj hnames))).1

/-- A receiver that yields two signals, each through its own filter. -/
def twoSignals : Graph :=
  withExporter [("r", {
      receiver := ⟨"otlp", .table []⟩
      processors := { metrics := some [keepOnly "a"], traces := some [keepOnly "b"] } })]
    [("m", ⟨.metrics, "r", []⟩), ("t", ⟨.traces, "r", []⟩)]

/-- A pipeline with the name of the receiver pipeline of another. -/
def namesake : Graph :=
  withExporter [("a", yieldsMetrics [keepOnly "a"]),
      ("b", yieldsMetrics [keepOnly "b", keepOnly "c"])]
    [("b", ⟨.metrics, "a", [keepOnly "d"]⟩), ("c", ⟨.metrics, "b", []⟩)]

/-- **Pipelines that share a receiver pipeline, or its name, can lose their processors:** two filters
have the name `filter/r_0` or `filter/b_1`, and the table has one of them. -/
theorem not_keepsProcessors :
    (∃ doc, twoSignals.document = .ok doc ∧ ¬ twoSignals.KeepsProcessors doc) ∧
    ∃ doc, namesake.document = .ok doc ∧ ¬ namesake.KeepsProcessors doc := by
  constructor
  · obtain ⟨doc, h⟩ : ∃ doc, twoSignals.document = .ok doc := exists_of_isOk rfl
    refine ⟨doc, h, ?_⟩
    intro hk
    have hm : twoSignals.Emits "m" ⟨.metrics, "r", []⟩ _ [keepOnly "a"] := ⟨rfl, rfl, rfl⟩
    have ht : twoSignals.Emits "t" ⟨.traces, "r", []⟩ _ [keepOnly "b"] := ⟨rfl, rfl, rfl⟩
    have hsame := (keeps_iff_agree h).mp hk "r" 0 (keepOnly "a") "r" 0 (keepOnly "b")
      (.receiver hm rfl) (.receiver ht rfl) rfl
    exact absurd (keepOnly_inj hsame) (by decide)
  · obtain ⟨doc, h⟩ : ∃ doc, namesake.document = .ok doc := exists_of_isOk rfl
    refine ⟨doc, h, ?_⟩
    intro hk
    have hb : namesake.Emits "b" ⟨.metrics, "a", [keepOnly "d"]⟩ _ [keepOnly "a"] :=
      ⟨rfl, rfl, rfl⟩
    have hc : namesake.Emits "c" ⟨.metrics, "b", []⟩ _ [keepOnly "b", keepOnly "c"] :=
      ⟨rfl, rfl, rfl⟩
    have hsame := (keeps_iff_agree h).mp hk "b" 1 (keepOnly "d") "b" 1 (keepOnly "c")
      (.pipeline (k := 0) hb rfl) (.receiver hc rfl) rfl
    exact absurd (keepOnly_inj hsame) (by decide)

end Graph

end Telemetry
