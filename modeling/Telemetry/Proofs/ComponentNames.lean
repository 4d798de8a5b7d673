import Telemetry.Proofs.Requests
import Telemetry.Proofs.Text

/-!
# Names of collector components

The name of a component joins its type, the name of its service pipeline and, for a processor, its
number. Ids may hold slashes and underscores, but types hold no slash and numbers no underscore. So
a name can be cut at its first slash and at its last underscore, and tells all of its parts:

* **`Node.typeOf_instanceName`** — a name tells the type of its component.
* **`Graph.nodup_numbered`** — the processors of one pipeline have distinct names, also where the
  numbers of the pipeline's own go on behind those of the receiver (**`Graph.numbered_append`**).
* **`nodup_componentNames`** — all components of a graph have distinct names.
-/

namespace Telemetry

/-! ## Cutting a name -/

/-- No name of a signal has a slash. -/
theorem Signal.slash_notMem (s : Signal) : '/' ∉ s.name.toList := by
  cases s <;> decide

namespace Node

/-- What a name says before its first slash. -/
def typeOf (name : String) : String :=
  String.ofList (name.toList.takeWhile (· ≠ '/'))

/-- **The name of an instance tells its type**, which has no slash. -/
theorem typeOf_instanceName {n : Node} (h : '/' ∉ n.typeName.toList) (suffix : String) :
    typeOf (n.instanceName suffix) = n.typeName := by
  rw [typeOf, instanceName]
  split
  · rw [Text.takeWhile_ne_self h, String.ofList_toList]
  · rw [Text.toList_append_sep (d := '/') rfl, Text.takeWhile_ne_append h, String.ofList_toList]

/-- The name of an instance tells its suffix. -/
theorem suffix_inj {m n : Node} {s t : String} (hm : '/' ∉ m.typeName.toList)
    (hn : '/' ∉ n.typeName.toList) (hs : s ≠ "") (ht : t ≠ "")
    (h : m.instanceName s = n.instanceName t) : s = t := by
  rw [instanceName, instanceName, if_neg hs, if_neg ht] at h
  exact (Text.append_sep_inj_of_first (d := '/') rfl hm hn h).2

/-- Names of different types are different. -/
theorem disjoint_of_types {xs ys types types' : List String}
    (hx : ∀ x ∈ xs, typeOf x ∈ types) (hy : ∀ y ∈ ys, typeOf y ∈ types')
    (h : ∀ t ∈ types, t ∉ types') : xs.Disjoint ys :=
  fun name hnx hny => h _ (hx name hnx) (hy name hny)

end Node

/-! ## Numbered processors -/

namespace Graph

/-- What a number is joined to stands apart from it. -/
theorem numberedSuffix_inj {stem stem' : String} {k k' : Nat}
    (h : stem ++ "_" ++ Text.decimal k = stem' ++ "_" ++ Text.decimal k') :
    stem = stem' ∧ k = k' := by
  obtain ⟨hstem, hk⟩ := Text.append_sep_inj_of_last (d := '_') rfl (Text.notMem_decimal rfl k)
    (Text.notMem_decimal rfl k') h
  exact ⟨hstem, Text.decimal_injective hk⟩

/-- No text with a number is empty. -/
theorem numberedSuffix_ne_empty (stem : String) (k : Nat) :
    stem ++ "_" ++ Text.decimal k ≠ "" := by
  intro h
  have hl := congrArg String.toList h
  simp at hl

/-- A numbered processor bears the number of its place. -/
theorem mem_numbered {stem name : String} {start : Nat} {ns : List Node} {n : Node} :
    (name, n) ∈ numbered stem start ns ↔
      ∃ k, ns[k]? = some n ∧ name = n.instanceName (stem ++ "_" ++ Text.decimal (start + k)) := by
  induction ns generalizing start with
  | nil => simp [numbered]
  | cons m ns ih =>
      rw [numbered, List.mem_cons, ih]
      constructor
      · rintro (h | ⟨k, hk, hname⟩)
        · obtain ⟨rfl, rfl⟩ := Prod.mk.inj h
          exact ⟨0, rfl, rfl⟩
        · refine ⟨k + 1, hk, ?_⟩
          rw [hname, show start + 1 + k = start + (k + 1) by omega]
      · rintro ⟨k, hk, hname⟩
        cases k with
        | zero =>
            obtain rfl := Option.some.inj hk
            exact .inl (Prod.ext hname rfl)
        | succ k =>
            refine .inr ⟨k, hk, ?_⟩
            rw [hname, show start + 1 + k = start + (k + 1) by omega]

/-- Numbering goes on from one list to the next. -/
theorem numbered_append (stem : String) (start : Nat) (ms ns : List Node) :
    numbered stem start (ms ++ ns)
      = numbered stem start ms ++ numbered stem (start + ms.length) ns := by
  induction ms generalizing start with
  | nil => rfl
  | cons m ms ih =>
      rw [List.cons_append, numbered, numbered, ih, List.length_cons, List.cons_append,
        show start + 1 + ms.length = start + (ms.length + 1) by omega]

/-- The numbered processors are all there are, in their order. -/
theorem map_snd_numbered (stem : String) (start : Nat) (ns : List Node) :
    (numbered stem start ns).map (·.2) = ns := by
  induction ns generalizing start with
  | nil => rfl
  | cons n ns ih => rw [numbered, List.map_cons, ih]

/-- Numbered processors of one name have one stem and one place. -/
theorem numbered_inj {stem stem' : String} {m n : Node} {k k' : Nat}
    (hm : '/' ∉ m.typeName.toList) (hn : '/' ∉ n.typeName.toList)
    (h : m.instanceName (stem ++ "_" ++ Text.decimal k)
      = n.instanceName (stem' ++ "_" ++ Text.decimal k')) : stem = stem' ∧ k = k' :=
  numberedSuffix_inj (Node.suffix_inj hm hn (numberedSuffix_ne_empty _ _)
    (numberedSuffix_ne_empty _ _) h)

/-- **Numbered processors have distinct names**, whatever their types. -/
theorem nodup_numbered {ns : List Node} (h : ∀ n ∈ ns, '/' ∉ n.typeName.toList) (stem : String)
    (start : Nat) : ((numbered stem start ns).map (·.1)).Nodup := by
  induction ns generalizing start with
  | nil => exact List.nodup_nil
  | cons n ns ih =>
      obtain ⟨hn, hns⟩ := List.forall_mem_cons.mp h
      rw [numbered, List.map_cons]
      refine List.nodup_cons.mpr ⟨?_, ih hns _⟩
      intro hmem
      obtain ⟨⟨name, m⟩, hm, hname⟩ := List.mem_map.mp hmem
      obtain ⟨k, hk, rfl⟩ := mem_numbered.mp hm
      -- all later numbers are greater
      have := (numbered_inj (hns m (List.mem_of_getElem? hk)) hn hname).2
      omega

end Graph

/-! ## The components of a graph -/

namespace PipelineRequest

variable {r r' : PipelineRequest}

/-- The name of the receiver. -/
def receiverName (r : PipelineRequest) : String :=
  r.receiver.receiver.instanceName r.name

/-- The processors with their names. -/
def namedNodes (r : PipelineRequest) : List (String × Node) :=
  Graph.numbered r.name 0 r.nodes

/-- The names of the processors. -/
def processorNames (r : PipelineRequest) : List String :=
  r.namedNodes.map (·.1)

theorem slash_notMem_receiverTypes : ∀ t ∈ receiverTypes, '/' ∉ t.toList := by decide

theorem slash_notMem_processorTypes : ∀ t ∈ processorTypes, '/' ∉ t.toList := by decide

namespace Sound

theorem slash_receiver (h : r.Sound) : '/' ∉ r.receiver.receiver.typeName.toList :=
  slash_notMem_receiverTypes _ h.receiverType

theorem slash_nodes (h : r.Sound) : ∀ n ∈ r.nodes, '/' ∉ n.typeName.toList :=
  fun n hn => slash_notMem_processorTypes _ (h.processorType n hn)

theorem typeOf_receiverName (h : r.Sound) : Node.typeOf r.receiverName ∈ receiverTypes := by
  rw [receiverName, Node.typeOf_instanceName h.slash_receiver]
  exact h.receiverType

theorem typeOf_processorNames (h : r.Sound) :
    ∀ name ∈ r.processorNames, Node.typeOf name ∈ processorTypes := by
  intro name hname
  obtain ⟨⟨_, n⟩, hn, rfl⟩ := List.mem_map.mp hname
  obtain ⟨k, hk, rfl⟩ := Graph.mem_numbered.mp hn
  have hmem : n ∈ r.nodes := List.mem_of_getElem? hk
  rw [Node.typeOf_instanceName (h.slash_nodes n hmem)]
  exact h.processorType n hmem

/-- Receivers of one name belong to requests of one name. -/
theorem name_eq_of_receiverName (h : r.Sound) (h' : r'.Sound)
    (he : r.receiverName = r'.receiverName) : r.name = r'.name :=
  Node.suffix_inj h.slash_receiver h'.slash_receiver h.named h'.named he

/-- Processors of one name belong to requests of one name, where they have one place. -/
theorem name_eq_of_namedNodes (h : r.Sound) (h' : r'.Sound) {name : String} {n n' : Node}
    (hn : (name, n) ∈ r.namedNodes) (hn' : (name, n') ∈ r'.namedNodes) :
    r.name = r'.name ∧ ∃ k : Nat, r.nodes[k]? = some n ∧ r'.nodes[k]? = some n' := by
  obtain ⟨k, hk, rfl⟩ := Graph.mem_numbered.mp hn
  obtain ⟨k', hk', he⟩ := Graph.mem_numbered.mp hn'
  obtain ⟨hstem, hnumber⟩ := Graph.numbered_inj (h.slash_nodes n (List.mem_of_getElem? hk))
    (h'.slash_nodes n' (List.mem_of_getElem? hk')) he
  obtain rfl : k = k' := by omega
  exact ⟨hstem, k, hk, hk'⟩

end Sound

end PipelineRequest

namespace CollectorGraph

open PipelineRequest (receiverTypes processorTypes)

/-- The names of the processors for resource attributes, which all pipelines share. -/
def detectorNames : List String :=
  ([.override, .setIfMissing, .none] : List ResourceDetection).flatMap fun mode =>
    (Graph.detector? mode).toList.map (·.1)

/-- The name of the exporter of a type. -/
def exporterName (p : Platform) (t : ExporterType) : String :=
  (t.node p).instanceName t.suffix

/-- The names of the exporters, which all pipelines share. -/
def exporterNames (p : Platform) : List String :=
  [ExporterType.cloudMonitoring, .managedPrometheus, .cloudLogging].map (exporterName p)

/-- The names of exporters do not depend on the platform. -/
theorem exporterNames_eq (p : Platform) :
    exporterNames p = ["googlecloud", "googlemanagedprometheus", "googlecloud/logging"] := rfl

theorem nodup_exporterNames (p : Platform) : (exporterNames p).Nodup := by
  rw [exporterNames_eq]
  decide

/-- Different types have different exporters. -/
theorem exporterName_injective {p : Platform} {t t' : ExporterType}
    (h : exporterName p t = exporterName p t') : t = t' := by
  have hall : ∀ t, t ∈ [ExporterType.cloudMonitoring, .managedPrometheus, .cloudLogging] := by
    intro t
    cases t <;> decide
  exact List.inj_on_of_nodup_map (nodup_exporterNames p) (hall t) (hall t') h

theorem nodup_receiverNames {rs : List PipelineRequest} (hs : ∀ r ∈ rs, r.Sound)
    (hn : (rs.map (·.name)).Nodup) : (rs.map (·.receiverName)).Nodup := by
  refine List.pairwise_map.mpr ((List.pairwise_map.mp hn).imp_of_mem ?_)
  intro r r' hr hr' hne he
  exact hne ((hs r hr).name_eq_of_receiverName (hs r' hr') he)

theorem nodup_processorNames {rs : List PipelineRequest} (hs : ∀ r ∈ rs, r.Sound)
    (hn : (rs.map (·.name)).Nodup) : (rs.flatMap (·.processorNames)).Nodup := by
  refine List.nodup_flatMap.mpr ⟨?_, ?_⟩
  · intro r hr
    exact Graph.nodup_numbered (hs r hr).slash_nodes _ _
  · refine (List.pairwise_map.mp hn).imp_of_mem ?_
    intro r r' hr hr' hne name hname hname'
    obtain ⟨⟨_, n⟩, hm, rfl⟩ := List.mem_map.mp hname
    obtain ⟨⟨_, n'⟩, hm', he⟩ := List.mem_map.mp hname'
    obtain rfl := he
    exact hne ((hs r hr).name_eq_of_namedNodes (hs r' hr') hm hm').1

/-- **All components of a graph have distinct names:** the receivers and the processors of its
pipelines, and the processors and exporters that the pipelines share. -/
theorem nodup_componentNames {rs : List PipelineRequest} (hs : ∀ r ∈ rs, r.Sound)
    (hn : (rs.map (·.name)).Nodup) (p : Platform) :
    (rs.map (·.receiverName) ++ rs.flatMap (·.processorNames) ++ detectorNames
      ++ exporterNames p).Nodup := by
  have hreceivers : ∀ x ∈ rs.map (·.receiverName), Node.typeOf x ∈ receiverTypes := by
    intro x hx
    obtain ⟨r, hr, rfl⟩ := List.mem_map.mp hx
    exact (hs r hr).typeOf_receiverName
  have hprocessors : ∀ x ∈ rs.flatMap (·.processorNames), Node.typeOf x ∈ processorTypes := by
    intro x hx
    obtain ⟨r, hr, hx⟩ := List.mem_flatMap.mp hx
    exact (hs r hr).typeOf_processorNames x hx
  have hdetectors : ∀ x ∈ detectorNames, Node.typeOf x ∈ ["resourcedetection"] := by decide
  have hexporters : ∀ x ∈ exporterNames p,
      Node.typeOf x ∈ ["googlecloud", "googlemanagedprometheus"] := by
    rw [exporterNames_eq]
    decide
  have hown : ∀ x ∈ rs.map (·.receiverName) ++ rs.flatMap (·.processorNames),
      Node.typeOf x ∈ receiverTypes ++ processorTypes := by
    intro x hx
    exact List.mem_append.mpr ((List.mem_append.mp hx).imp (hreceivers x) (hprocessors x))
  have hall : ∀ x ∈ rs.map (·.receiverName) ++ rs.flatMap (·.processorNames) ++ detectorNames,
      Node.typeOf x ∈ receiverTypes ++ processorTypes ++ ["resourcedetection"] := by
    intro x hx
    exact List.mem_append.mpr ((List.mem_append.mp hx).imp (hown x) (hdetectors x))
  refine List.nodup_append'.mpr ⟨List.nodup_append'.mpr ⟨List.nodup_append'.mpr
    ⟨nodup_receiverNames hs hn, nodup_processorNames hs hn, ?_⟩, by decide, ?_⟩, ?_, ?_⟩
  · exact Node.disjoint_of_types hreceivers hprocessors (by decide)
  · exact Node.disjoint_of_types hown hdetectors (by decide)
  · exact nodup_exporterNames p
  · exact Node.disjoint_of_types hall hexporters (by decide)

end CollectorGraph

end Telemetry
