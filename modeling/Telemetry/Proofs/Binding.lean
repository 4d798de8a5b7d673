import Mathlib.Data.List.Forall2
import Telemetry.Proofs.References

/-!
# What resolving binds, and where it stops

Resolving the logging pipelines walks over the references in one fixed order: pipelines by id, and
of each its processors, its exporters and its receivers.

* **`Failing.Visits`** — a computation that looks at references in order, and fails at the first
  that is not defined. It goes through each way in which steps are strung together, so resolving all
  pipelines visits the list of all references.
* **`Logging.checkTags_eq_clash_iff`** — behind it, the tags are compared: the check stops at the
  first receiver whose tag an earlier one has.
* **`Config.logInstances_binds`** — so there are instances exactly if all references are defined and
  all tags differ, they are those that the pipelines ask for, in the order of their ids, and the
  failure is the first there is.
-/

namespace Telemetry

open Failing

/-! ## Visiting references in order -/

/-- The failure at a reference that is not defined. -/
def Reference.failure (r : Reference) : CompileError :=
  .undefinedReference r.domain r.role r.id r.pipeline

namespace Failing

variable {α β : Type} {D : Reference → Prop} {rs rs' : List Reference}

/-- A computation looks at references in order: at the first that is not defined it fails, and if
all are defined it has a result. -/
def Visits (D : Reference → Prop) : List Reference → Except CompileError α → Prop
  | [], x => ∃ a, x = .ok a
  | r :: rs, x => (D r ∧ Visits D rs x) ∨ (¬ D r ∧ x = .error r.failure)

namespace Visits

/-- To look at a reference is to demand that it is defined. -/
theorem iff_demands {x : Except CompileError α} :
    Visits D rs x ↔ Demands Reference.failure D rs x := by
  induction rs with
  | nil => exact Iff.rfl
  | cons r rs ih => exact or_congr_left (and_congr_right fun _ => ih)

/-- A step that looks at one reference. -/
theorem single {r : Reference} {x : Except CompileError α} (hok : D r → ∃ a, x = .ok a)
    (herror : ¬ D r → x = .error r.failure) : Visits D [r] x :=
  iff_demands.mpr (.single hok herror)

/-- Two steps look at the references of the first and then at those of the second. -/
theorem bind {x : Except CompileError α} {f : α → Except CompileError β} (hx : Visits D rs x)
    (hf : ∀ a, x = .ok a → Visits D rs' (f a)) : Visits D (rs ++ rs') (x >>= f) :=
  iff_demands.mpr ((iff_demands.mp hx).bind fun a ha => iff_demands.mp (hf a ha))

/-- What it means to be defined counts for the references only. -/
theorem congr {D' : Reference → Prop} {x : Except CompileError α} (h : Visits D rs x)
    (hD : ∀ r ∈ rs, (D' r ↔ D r)) : Visits D' rs x :=
  iff_demands.mpr ((iff_demands.mp h).congr hD)

/-- A last step that always has a result looks at nothing. -/
theorem bind_ok {x : Except CompileError α} {f : α → Except CompileError β} (hx : Visits D rs x)
    (hf : ∀ a, ∃ b, f a = .ok b) : Visits D rs (x >>= f) :=
  iff_demands.mpr ((iff_demands.mp hx).bind_ok hf)

/-- One step for each member, each with its own references. -/
theorem mapM {refs : α → List Reference} {f : α → Except CompileError β} {as : List α}
    (h : ∀ a ∈ as, Visits D (refs a) (f a)) : Visits D (as.flatMap refs) (as.mapM f) :=
  iff_demands.mpr (.mapM fun a ha => iff_demands.mp (h a ha))

/-- One check for each member, each with its own references. -/
theorem forM {refs : α → List Reference} {f : α → Except CompileError Unit} {as : List α}
    (h : ∀ a ∈ as, Visits D (refs a) (f a)) : Visits D (as.flatMap refs) (as.forM f) :=
  iff_demands.mpr (.forM fun a ha => iff_demands.mp (h a ha))

/-- There is a result exactly if all references are defined. -/
theorem exists_ok_iff {x : Except CompileError α} (h : Visits D rs x) :
    (∃ a, x = .ok a) ↔ ∀ r ∈ rs, D r :=
  (iff_demands.mp h).exists_ok_iff

/-- The failure is that of the first reference that is not defined. -/
theorem eq_error_iff {x : Except CompileError α} (h : Visits D rs x) {e : CompileError} :
    x = .error e ↔ ∃ before r after, rs = before ++ r :: after ∧ (∀ r' ∈ before, D r') ∧
      ¬ D r ∧ e = r.failure :=
  (iff_demands.mp h).eq_error_iff

end Visits

end Failing

/-! ## What the pipelines ask for -/

/-- The references of a logging pipeline, in the order in which they are looked at. -/
def LogPipeline.references (id : String) (p : LogPipeline) : List Reference :=
  [Role.processor, .exporter, .receiver].flatMap fun role =>
    (p.listed role).map fun ref => ⟨.logging, role, ref, id⟩

/-- A receiver that a pipeline lists. -/
structure Listing where
  pipeline : String
  lists : LogPipeline
  receiver : String

/-- The base tag that a listed receiver asks for. -/
def Listing.tag (s : Listing) : String :=
  s.pipeline ++ "." ++ s.receiver

/-- The failure at a listing whose tag an earlier one has. -/
def Listing.clash (first s : Listing) : CompileError :=
  .tagCollision s.tag first.pipeline first.receiver s.pipeline s.receiver

namespace Logging

/-- The pipelines for an engine, by id. -/
def pipelinesFor (l : Logging) (engine : LogEngine) : List (String × LogPipeline) :=
  l.pipelines.entries.filter (·.2.engine = engine)

/-- All references of the pipelines for an engine, in the order in which they are looked at. -/
def references (l : Logging) (engine : LogEngine) : List Reference :=
  (l.pipelinesFor engine).flatMap fun (id, p) => p.references id

/-- All listed receivers of the pipelines for an engine, in order. -/
def listings (l : Logging) (engine : LogEngine) : List Listing :=
  (l.pipelinesFor engine).flatMap fun (id, p) => p.receivers.map fun r => ⟨id, p, r⟩

/-- The pipelines for an engine are those of the domain that name it. -/
theorem mem_pipelinesFor_iff {l : Logging} {engine : LogEngine} {id : String} {p : LogPipeline} :
    (id, p) ∈ l.pipelinesFor engine ↔ l.pipelines.get? id = some p ∧ p.engine = engine := by
  rw [pipelinesFor, List.mem_filter, Keyed.mem_entries_iff, decide_eq_true_iff]

/-- The pipelines for an engine stand in the order of their ids, each once. -/
theorem pipelinesFor_ascending (l : Logging) (engine : LogEngine) :
    ((l.pipelinesFor engine).map (·.1)).Pairwise (· < ·) :=
  List.pairwise_map.mpr (l.pipelines.ordered.filter _)

/-- What the pipelines for an engine have, one after the other, stands in the order of their ids. -/
theorem ascending_flatMap {α : Type} (l : Logging) (engine : LogEngine)
    {f : String × LogPipeline → List α} {g : α → String} (hf : ∀ x, ∀ a ∈ f x, g a = x.1) :
    (((l.pipelinesFor engine).flatMap f).map g).Pairwise (· ≤ ·) := by
  rw [List.pairwise_map, List.pairwise_flatMap]
  constructor
  · intro x _
    refine List.pairwise_of_forall_mem_list fun a ha b hb => ?_
    have same : g a = g b := (hf x a ha).trans (hf x b hb).symm
    exact same ▸ String.le_refl (g a)
  · refine (List.pairwise_map.mp (l.pipelinesFor_ascending engine)).imp ?_
    intro x y hlt a ha b hb
    rw [hf x a ha, hf y b hb]
    exact Std.le_of_lt hlt

/-- Listed receivers and references come by the ids of their pipelines. -/
theorem ascending_pipelines (l : Logging) (engine : LogEngine) :
    ((l.listings engine).map (·.pipeline)).Pairwise (· ≤ ·) ∧
      ((l.references engine).map (·.pipeline)).Pairwise (· ≤ ·) := by
  constructor
  · refine l.ascending_flatMap engine fun x s hs => ?_
    obtain ⟨r, -, rfl⟩ := List.mem_map.mp hs
    rfl
  · refine l.ascending_flatMap engine fun x r hr => ?_
    obtain ⟨role, -, hr⟩ := List.mem_flatMap.mp hr
    obtain ⟨ref, -, rfl⟩ := List.mem_map.mp hr
    rfl

/-- What the id of a processor stands for: its definition, or the built-in parser of that name. -/
inductive Means (l : Logging) (id : String) : LogProcessor → Prop
  | defined {config} (h : l.processors.get? id = some config) : Means l id (.configured config)
  | builtin (h : id ∈ ParserDef.builtinNames) : Means l id (.builtinParser id)

/-- An instance is what a listed receiver asks for. -/
structure Binds (l : Logging) (s : Listing) (i : LogInstance) : Prop where
  pipeline : i.pipeline = s.pipeline
  receiverId : i.receiverId = s.receiver
  engine : i.engine = s.lists.engine
  receiver : ∃ config, l.receivers.get? s.receiver = some config ∧ i.receiver = .configured config
  /-- All listed processors, in order and under the ids that brought them there. -/
  processors : List.Forall₂ (fun id b => b.id = id ∧ l.Means id b.processor) s.lists.processors
    i.processors
  exporters : i.exporters =
    if s.lists.exporters = [] then [defaultLogExporter] else s.lists.exporters

/-! ## Each reference of a pipeline -/

variable {l : Logging}

theorem isBuiltin_iff {id : String} :
    ParserDef.isBuiltin id = true ↔ id ∈ ParserDef.builtinNames :=
  List.contains_iff_mem

/-- The names of the built-in parsers are reserved. -/
theorem isReserved_builtin {id : String} (h : id ∈ ParserDef.builtinNames) :
    isReserved id = true := by
  have hall : ∀ name ∈ ParserDef.builtinNames, isReserved name = true := by decide
  exact hall id h

/-- No built-in parser has the id of a definition of an accepted domain. -/
theorem Accepted.builtin_undefined (hl : l.Accepted) {id : String}
    (h : id ∈ ParserDef.builtinNames) : l.processors.get? id = none := by
  refine Keyed.not_mem_keys_iff.mp ?_
  intro hid
  have hnot := hl.not_reserved (.inr (.inl hid))
  rw [isReserved_builtin h] at hnot
  exact nomatch hnot

/-- In an accepted domain, an id stands for one processor. -/
theorem Means.unique (hl : l.Accepted) {id : String} {a b : LogProcessor} (ha : l.Means id a)
    (hb : l.Means id b) : a = b := by
  cases ha with
  | defined h =>
      cases hb with
      | defined h' => rw [Option.some.inj (h.symm.trans h')]
      | builtin h' =>
          rw [hl.builtin_undefined h'] at h
          exact nomatch h
  | builtin h =>
      cases hb with
      | defined h' =>
          rw [hl.builtin_undefined h] at h'
          exact nomatch h'
      | builtin h' => rfl

/-- A defined id stands for a processor. -/
theorem exists_means {id : String} (h : l.Defines .processor id) : ∃ a, l.Means id a := by
  rcases h with h | h
  · obtain ⟨config, hconfig⟩ := Keyed.mem_keys_iff.mp h
    exact ⟨_, .defined hconfig⟩
  · exact ⟨_, .builtin h⟩

/-- A processor is bound to what its id stands for. -/
theorem bindProcessor_of_means (hl : l.Accepted) (pipeline : String) {id : String}
    {a : LogProcessor} (h : l.Means id a) : l.bindProcessor pipeline id = .ok ⟨id, a⟩ := by
  rw [bindProcessor]
  cases h with
  | defined h =>
      have hid := hl.not_reserved (.inr (.inl (Keyed.mem_keys_iff.mpr ⟨_, h⟩)))
      rw [if_neg (by rw [hid]; exact Bool.false_ne_true), h]
  | builtin h =>
      rw [if_pos (isReserved_builtin h), if_pos (isBuiltin_iff.mpr h)]

/-- A processor without a definition is refused. -/
theorem bindProcessor_of_undefined (pipeline : String) {id : String}
    (h : ¬ l.Defines .processor id) :
    l.bindProcessor pipeline id
      = .error (Reference.failure ⟨.logging, .processor, id, pipeline⟩) := by
  obtain ⟨hdefined, hbuiltin⟩ := not_or.mp h
  rw [bindProcessor]
  by_cases hr : isReserved id = true
  · rw [if_pos hr, if_neg (fun hb => hbuiltin (isBuiltin_iff.mp hb))]
    rfl
  · rw [if_neg hr, Keyed.not_mem_keys_iff.mp hdefined]
    rfl

/-- The reference of a logging pipeline is defined. -/
def Knows (l : Logging) (r : Reference) : Prop :=
  l.Defines r.role r.id

theorem visits_bindProcessor (hl : l.Accepted) (pipeline id : String) :
    Visits l.Knows [⟨.logging, .processor, id, pipeline⟩] (l.bindProcessor pipeline id) := by
  refine .single ?_ (bindProcessor_of_undefined pipeline)
  intro h
  obtain ⟨a, ha⟩ := exists_means h
  exact ⟨_, bindProcessor_of_means hl pipeline ha⟩

theorem visits_checkExporter (pipeline id : String) :
    Visits l.Knows [⟨.logging, .exporter, id, pipeline⟩] (l.checkExporter pipeline id) := by
  have hiff : (id = defaultLogExporter ∨ l.exporters.contains id = true) ↔
      l.Defines .exporter id := by
    rw [or_comm]
    exact or_congr_left (Option.isSome_iff_exists.trans Keyed.mem_keys_iff.symm)
  rw [checkExporter]
  refine .single ?_ ?_
  · intro h
    exact ⟨(), if_pos (hiff.mpr h)⟩
  · intro h
    exact if_neg (fun hid => h (hiff.mp hid))

theorem visits_bindReceiver (pipeline id : String) :
    Visits l.Knows [⟨.logging, .receiver, id, pipeline⟩] (l.bindReceiver pipeline id) := by
  rw [bindReceiver]
  refine .single ?_ ?_
  · intro h
    obtain ⟨config, hconfig⟩ := Keyed.mem_keys_iff.mp h
    rw [hconfig]
    exact ⟨_, rfl⟩
  · intro h
    rw [Keyed.not_mem_keys_iff.mp h]
    rfl

/-! ## One pipeline -/

/-- The exporters of a pipeline are the listed ones, or the built-in one. -/
theorem exporterIds_eq_ok {pipeline : String} {listed ids : List String}
    (h : l.exporterIds pipeline listed = .ok ids) :
    ids = if listed = [] then [defaultLogExporter] else listed := by
  rw [exporterIds] at h
  cases listed with
  | nil => exact (Except.ok.inj h).symm
  | cons e es =>
      obtain ⟨_, -, h⟩ := bind_eq_ok.mp h
      exact (Except.ok.inj h).symm

theorem visits_exporterIds (pipeline : String) (listed : List String) :
    Visits l.Knows (listed.map fun ref => ⟨.logging, .exporter, ref, pipeline⟩)
      (l.exporterIds pipeline listed) := by
  rw [exporterIds]
  cases listed with
  | nil => exact ⟨_, rfl⟩
  | cons e es =>
      rw [List.map_eq_flatMap]
      exact (Visits.forM fun ref _ => visits_checkExporter pipeline ref).bind_ok
        fun _ => ⟨_, rfl⟩

/-- **The instances of a pipeline visit its references:** its processors, its exporters and its
receivers. -/
theorem visits_instancesOf (hl : l.Accepted) (id : String) (p : LogPipeline) :
    Visits l.Knows (p.references id) (l.instancesOf id p) := by
  have hrefs : p.references id =
      (p.processors.map fun ref => ⟨.logging, .processor, ref, id⟩) ++
        ((p.exporters.map fun ref => ⟨.logging, .exporter, ref, id⟩) ++
          (p.receivers.map fun ref => ⟨.logging, .receiver, ref, id⟩)) := by
    simp [LogPipeline.references, LogPipeline.listed]
  rw [hrefs, instancesOf]
  refine Visits.bind ?_ ?_
  · rw [List.map_eq_flatMap]
    exact .mapM fun ref _ => visits_bindProcessor hl id ref
  intro processors _
  refine (visits_exporterIds id p.exporters).bind ?_
  intro exporters _
  rw [List.map_eq_flatMap]
  exact .mapM fun ref _ => (visits_bindReceiver id ref).bind_ok fun _ => ⟨_, rfl⟩

/-- The instances of a pipeline are what its listed receivers ask for. -/
theorem binds_of_instancesOf {id : String} {p : LogPipeline} {is : List LogInstance}
    (h : l.instancesOf id p = .ok is) :
    List.Forall₂ l.Binds (p.receivers.map fun r => ⟨id, p, r⟩) is := by
  rw [instancesOf] at h
  obtain ⟨processors, hprocessors, h⟩ := bind_eq_ok.mp h
  obtain ⟨exporters, hexporters, h⟩ := bind_eq_ok.mp h
  rw [List.forall₂_map_left_iff]
  refine (mapM_eq_ok.mp h).imp ?_
  intro receiverId i hi
  obtain ⟨receiver, hreceiver, hi⟩ := bind_eq_ok.mp hi
  obtain rfl := Except.ok.inj hi
  refine ⟨rfl, rfl, rfl, bindReceiver_eq_ok hreceiver, ?_, exporterIds_eq_ok hexporters⟩
  -- the processors are bound once, whatever the receiver
  refine (mapM_eq_ok.mp hprocessors).imp ?_
  intro ref b hb
  obtain ⟨hid, ⟨hbuiltin, hb⟩ | ⟨config, hconfig, hb⟩⟩ := bindProcessor_eq_ok hb
  · exact ⟨hid, hb ▸ .builtin (isBuiltin_iff.mp hbuiltin)⟩
  · exact ⟨hid, hb ▸ .defined hconfig⟩

/-- An instance has one listing, and in an accepted domain a listing has one instance. -/
theorem Binds.unique (hl : l.Accepted) {s : Listing} {i j : LogInstance} (hi : l.Binds s i)
    (hj : l.Binds s j) : i = j := by
  have hprocessors : i.processors = j.processors := by
    refine List.right_unique_forall₂' ?_ hi.processors hj.processors
    rintro id ⟨_, a⟩ ⟨_, b⟩ ⟨rfl, ha⟩ ⟨hid, hb⟩
    obtain rfl := hid
    obtain rfl : a = b := ha.unique hl hb
    rfl
  obtain ⟨config, hconfig, hri⟩ := hi.receiver
  obtain ⟨config', hconfig', hrj⟩ := hj.receiver
  obtain rfl := Option.some.inj (hconfig.symm.trans hconfig')
  cases i
  cases j
  rw [LogInstance.mk.injEq]
  exact ⟨hi.pipeline.trans hj.pipeline.symm, hi.receiverId.trans hj.receiverId.symm,
    hri.trans hrj.symm, hprocessors, hi.exporters.trans hj.exporters.symm,
    hi.engine.trans hj.engine.symm⟩

/-! ## Comparing tags -/

/-- The base tag of an instance is the one that its listing asks for. -/
theorem Binds.base {s : Listing} {i : LogInstance} (h : l.Binds s i) : i.tag.base = s.tag := by
  rw [i.base_eq, h.pipeline, h.receiverId]
  rfl

theorem baseTags_of_binds {ss : List Listing} {is : List LogInstance}
    (h : List.Forall₂ l.Binds ss is) : baseTags is = ss.map Listing.tag := by
  induction h with
  | nil => rfl
  | cons hi _ ih =>
      rw [List.map_cons, ← ih, ← hi.base]
      rfl

/-- Listings and instances of one tag collide alike. -/
theorem Binds.collision_eq {s s' : Listing} {i i' : LogInstance} (h : l.Binds s i)
    (h' : l.Binds s' i') : collision i i' = s.clash s' := by
  rw [collision, h'.base, h.pipeline, h.receiverId, h'.pipeline, h'.receiverId]
  rfl

/-- The check of the tags stops at the first listing whose tag an earlier one has. -/
theorem checkTags_eq_clash_iff {ss : List Listing} {is : List LogInstance}
    (h : List.Forall₂ l.Binds ss is) {e : CompileError} :
    checkTags [] is = .error e ↔
      ∃ before s after first, ss = before ++ s :: after ∧ (before.map Listing.tag).Nodup ∧
        first ∈ before ∧ first.tag = s.tag ∧ e = first.clash s := by
  rw [checkTags_eq_error_iff]
  constructor
  · rintro ⟨before, i, after, j, rfl, hn, hj, htag, rfl⟩
    obtain ⟨before', s, after', rfl, hbefore, hi⟩ := exists_of_forall₂_append_cons h
    obtain ⟨first, hfirst, hj⟩ := exists_of_mem_forall₂ hbefore hj
    rw [baseTags_of_binds hbefore] at hn
    rw [hj.base, hi.base] at htag
    exact ⟨before', s, after', first, rfl, hn, hfirst, htag, hj.collision_eq hi⟩
  · rintro ⟨before, s, after, first, rfl, hn, hfirst, htag, rfl⟩
    obtain ⟨before', i, after', rfl, hbefore, hi⟩ := exists_of_forall₂_append_cons h.flip
    obtain ⟨j, hj, hfirst⟩ := exists_of_mem_forall₂ hbefore hfirst
    rw [← baseTags_of_binds hbefore.flip] at hn
    rw [← hfirst.base, ← hi.base] at htag
    exact ⟨before', i, after', j, rfl, hn, hj, htag, (hfirst.collision_eq hi).symm⟩

/-! ## All pipelines -/

/-- Resolving an accepted domain is to bind its pipelines one after another, and then to compare the
tags. -/
theorem Accepted.resolve_eq (hl : l.Accepted) (engine : LogEngine) :
    l.resolve engine = (l.pipelinesFor engine).mapM (fun (id, p) => l.instancesOf id p) >>=
      fun parts => checkTags [] parts.flatten >>= fun _ => .ok parts.flatten := by
  rw [resolve, hl.ids]
  rfl

variable {D : Reference → Prop} {engine : LogEngine}

/-- **Binding all pipelines visits all their references.** -/
theorem visits_references (hl : l.Accepted) (hD : ∀ r ∈ l.references engine, (D r ↔ l.Knows r)) :
    Visits D (l.references engine)
      ((l.pipelinesFor engine).mapM fun (id, p) => l.instancesOf id p) :=
  Visits.congr (.mapM fun (id, p) _ => visits_instancesOf hl id p) hD

/-- The instances that were bound are what all listed receivers ask for. -/
theorem binds_of_parts {parts : List (List LogInstance)}
    (h : (l.pipelinesFor engine).mapM (fun (id, p) => l.instancesOf id p) = .ok parts) :
    List.Forall₂ l.Binds (l.listings engine) parts.flatten := by
  rw [listings, List.flatMap_def]
  refine List.rel_flatten ?_
  rw [List.forall₂_map_left_iff]
  exact (mapM_eq_ok.mp h).imp fun _ _ hpart => binds_of_instancesOf hpart

/-- The instances of a domain are what all listed receivers ask for. -/
theorem binds_of_resolve {is : List LogInstance}
    (h : l.resolve engine = .ok is) : List.Forall₂ l.Binds (l.listings engine) is := by
  obtain ⟨parts, hparts, rfl, -⟩ := resolve_parts h
  exact binds_of_parts hparts

/-- **When an accepted domain can be resolved:** all references are defined and all tags differ. -/
theorem exists_resolve_iff (hl : l.Accepted) (hD : ∀ r ∈ l.references engine, (D r ↔ l.Knows r)) :
    (∃ is, l.resolve engine = .ok is) ↔
      (∀ r ∈ l.references engine, D r) ∧ ((l.listings engine).map Listing.tag).Nodup := by
  rw [← (visits_references hl hD).exists_ok_iff]
  constructor
  · rintro ⟨is, h⟩
    obtain ⟨parts, hparts, rfl, htags⟩ := resolve_parts h
    rw [← baseTags_of_binds (binds_of_parts hparts)]
    exact ⟨⟨parts, hparts⟩, (checkTags_eq_ok.mp htags).1⟩
  · rintro ⟨⟨parts, hparts⟩, hn⟩
    rw [← baseTags_of_binds (binds_of_parts hparts)] at hn
    have htags : checkTags [] parts.flatten = .ok () :=
      checkTags_eq_ok.mpr ⟨hn, fun _ _ => rfl⟩
    refine ⟨parts.flatten, ?_⟩
    rw [hl.resolve_eq, hparts]
    show (checkTags [] parts.flatten >>= fun _ => Except.ok parts.flatten) = .ok parts.flatten
    rw [htags]
    rfl

/-- **Why an accepted domain cannot be resolved:** the first reference that is not defined, and if
there is none, the first listing whose tag an earlier one has. -/
theorem resolve_eq_error_iff (hl : l.Accepted)
    (hD : ∀ r ∈ l.references engine, (D r ↔ l.Knows r)) (e : CompileError) :
    l.resolve engine = .error e ↔
      (∃ before r after, l.references engine = before ++ r :: after ∧ (∀ r' ∈ before, D r') ∧
        ¬ D r ∧ e = r.failure) ∨
      (∀ r ∈ l.references engine, D r) ∧
        ∃ before s after first, l.listings engine = before ++ s :: after ∧
          (before.map Listing.tag).Nodup ∧ first ∈ before ∧ first.tag = s.tag ∧
          e = first.clash s := by
  have hvisits := visits_references hl hD
  rw [hl.resolve_eq, bind_eq_error, hvisits.eq_error_iff, ← hvisits.exists_ok_iff]
  refine or_congr Iff.rfl ?_
  have hclash : ∀ parts,
      (l.pipelinesFor engine).mapM (fun (id, p) => l.instancesOf id p) = .ok parts →
      ((checkTags [] parts.flatten >>= fun _ => Except.ok parts.flatten) = .error e ↔
        ∃ before s after first, l.listings engine = before ++ s :: after ∧
          (before.map Listing.tag).Nodup ∧ first ∈ before ∧ first.tag = s.tag ∧
          e = first.clash s) := by
    intro parts hparts
    rw [← checkTags_eq_clash_iff (binds_of_parts hparts), bind_eq_error]
    refine or_iff_left ?_
    rintro ⟨_, -, hok⟩
    exact nomatch hok
  constructor
  · rintro ⟨parts, hparts, he⟩
    exact ⟨⟨parts, hparts⟩, (hclash parts hparts).mp he⟩
  · rintro ⟨⟨parts, hparts⟩, he⟩
    exact ⟨parts, hparts, (hclash parts hparts).mpr he⟩

end Logging

/-! ## The instances of a configuration -/

namespace Config

variable {c : Config}

/-- All references of the logging pipelines for an engine, in the order in which they are looked
at. -/
def logReferences (c : Config) (engine : LogEngine) : List Reference :=
  c.logging.elim [] (·.references engine)

/-- All receivers that the logging pipelines for an engine list, in order. -/
def logListings (c : Config) (engine : LogEngine) : List Listing :=
  c.logging.elim [] (·.listings engine)

/-- An instance is what a listed receiver of a configuration asks for. -/
def Binds (c : Config) (s : Listing) (i : LogInstance) : Prop :=
  ∃ l, c.logging = some l ∧ l.Binds s i

/-- A reference of a logging pipeline is defined in the configuration if it is in its domain. -/
theorem defines_iff_knows {l : Logging} {engine : LogEngine} (h : c.logging = some l) :
    ∀ r ∈ l.references engine, (c.Defines r ↔ l.Knows r) := by
  intro r hr
  obtain ⟨⟨id, p⟩, -, hr⟩ := List.mem_flatMap.mp hr
  obtain ⟨role, -, hr⟩ := List.mem_flatMap.mp hr
  obtain ⟨ref, -, rfl⟩ := List.mem_map.mp hr
  show (∃ l', c.logging = some l' ∧ l'.Defines role ref) ↔ l.Defines role ref
  rw [h]
  simp

/-- All references are defined if each list of each pipeline is. -/
theorem forall_logReferences_iff {engine : LogEngine} :
    (∀ r ∈ c.logReferences engine, c.Defines r) ↔
      ∀ l id p, c.logging = some l → l.pipelines.get? id = some p → p.engine = engine →
        ∀ role, ∀ ref ∈ p.listed role, l.Defines role ref := by
  constructor
  · intro h l id p hl hp he role ref href
    have hmem : ⟨.logging, role, ref, id⟩ ∈ l.references engine := by
      refine List.mem_flatMap.mpr ⟨(id, p), Logging.mem_pipelinesFor_iff.mpr ⟨hp, he⟩, ?_⟩
      refine List.mem_flatMap.mpr ⟨role, ?_, List.mem_map.mpr ⟨ref, href, rfl⟩⟩
      cases role <;> first | decide | exact nomatch href
    refine (defines_iff_knows hl _ hmem).mp (h _ ?_)
    rw [logReferences, hl]
    exact hmem
  · intro h r hr
    rw [logReferences] at hr
    cases hl : c.logging with
    | none =>
        rw [hl] at hr
        exact nomatch hr
    | some l =>
        rw [hl] at hr
        have hr : r ∈ l.references engine := hr
        refine (defines_iff_knows hl r hr).mpr ?_
        obtain ⟨⟨id, p⟩, hp, hr⟩ := List.mem_flatMap.mp hr
        obtain ⟨role, -, hr⟩ := List.mem_flatMap.mp hr
        obtain ⟨ref, href, rfl⟩ := List.mem_map.mp hr
        obtain ⟨hp, he⟩ := Logging.mem_pipelinesFor_iff.mp hp
        exact h l id p hl hp he role ref href

/-- **Resolving binds exactly what the configuration asks for.** For an accepted configuration and
an engine:

* There are instances if and only if every id that a pipeline for the engine lists is defined, or is
  that of a built-in component, and the base tags of all listed receivers are pairwise distinct.
* They are then the only list with one instance for each listed receiver, in order, bound to what it
  asks for.
* Listed receivers and references come by the ids of their pipelines.
* Otherwise the failure is that of the first reference without a definition, and only if all are
  defined the collision of the first listed receiver whose tag an earlier one has. -/
theorem logInstances_binds (hc : c.check = .ok ()) (engine : LogEngine) :
    ((∃ is, c.logInstances engine = .ok is) ↔
      (∀ l id p, c.logging = some l → l.pipelines.get? id = some p → p.engine = engine →
        ∀ role, ∀ ref ∈ p.listed role, l.Defines role ref) ∧
      ((c.logListings engine).map Listing.tag).Nodup) ∧
    (∀ is, c.logInstances engine = .ok is →
      ∀ is', List.Forall₂ c.Binds (c.logListings engine) is' ↔ is' = is) ∧
    (((c.logListings engine).map (·.pipeline)).Pairwise (· ≤ ·) ∧
      ((c.logReferences engine).map (·.pipeline)).Pairwise (· ≤ ·)) ∧
    ∀ e, c.logInstances engine = .error e ↔
      (∃ before r after, c.logReferences engine = before ++ r :: after ∧
        (∀ r' ∈ before, c.Defines r') ∧ ¬ c.Defines r ∧ e = r.failure) ∨
      (∀ r ∈ c.logReferences engine, c.Defines r) ∧
        ∃ before s after first, c.logListings engine = before ++ s :: after ∧
          (before.map Listing.tag).Nodup ∧ first ∈ before ∧ first.tag = s.tag ∧
          e = first.clash s := by
  rw [← forall_logReferences_iff, logInstances, logReferences, logListings]
  cases hl : c.logging with
  | none =>
      refine ⟨iff_of_true ⟨[], rfl⟩ ⟨List.forall_mem_nil _, List.nodup_nil⟩, ?_, ⟨.nil, .nil⟩, ?_⟩
      · intro is h is'
        obtain rfl := Except.ok.inj h
        exact List.forall₂_nil_left_iff
      · intro e
        refine iff_of_false (fun h => by cases h) ?_
        rintro (⟨before, r, after, h, -⟩ | ⟨-, before, s, after, first, h, -⟩)
        · exact absurd h (by simp)
        · exact absurd h (by simp)
  | some l =>
      have hacc := logging_accepted hc hl
      have hD : ∀ r ∈ l.references engine, (c.Defines r ↔ l.Knows r) := defines_iff_knows hl
      refine ⟨Logging.exists_resolve_iff hacc hD, ?_, l.ascending_pipelines engine,
        Logging.resolve_eq_error_iff hacc hD⟩
      intro is h is'
      have hbinds : List.Forall₂ c.Binds (l.listings engine) is :=
        (Logging.binds_of_resolve h).imp fun s i hi => ⟨l, hl, hi⟩
      refine ⟨fun h' => ?_, fun h' => h' ▸ hbinds⟩
      -- a listing asks for one instance only
      refine List.right_unique_forall₂' ?_ h' hbinds
      rintro s i j ⟨l', hl', hi⟩ ⟨l'', hl'', hj⟩
      obtain rfl := Option.some.inj (hl.symm.trans hl')
      obtain rfl := Option.some.inj (hl.symm.trans hl'')
      exact hi.unique hacc hj

end Config

/-- Pipelines for both engines, with a built-in parser, the built-in exporter and a receiver that is
listed in two of them. -/
def boundIds : Config where
  logging := some {
    receivers := .ofList [("app", .files { includePaths := ["/a.log"] }),
      ("sys", .files { includePaths := ["/b.log"] })]
    processors := .ofList [("json", .parseJson {})]
    exporters := .ofList [("out", .googleCloudLogging)]
    pipelines := .ofList [
      ("q", { receivers := ["sys"], exporters := ["out", defaultLogExporter] }),
      ("p", { receivers := ["sys", "app"], processors := ["lib:nginx", "json"] }),
      ("c", { receivers := ["app"], engine := .collector })] }

/-- The pipelines of `boundIds` by id, each with its receivers as it lists them. -/
theorem Config.logInstances_binds_boundIds : boundIds.check = .ok () ∧
    (boundIds.logListings .fluentBit).map Listing.tag = ["p.sys", "p.app", "q.sys"] ∧
    ∃ is, boundIds.logInstances .fluentBit = .ok is ∧
      ∀ is', List.Forall₂ boundIds.Binds (boundIds.logListings .fluentBit) is' ↔ is' = is := by
  have hc : boundIds.check = .ok () := rfl
  obtain ⟨is, his⟩ : ∃ is, boundIds.logInstances .fluentBit = .ok is :=
    exists_of_isOk rfl
  exact ⟨hc, rfl, is, his, (Config.logInstances_binds hc .fluentBit).2.1 is his⟩

end Telemetry
