import Telemetry.Proofs.Accepted
import Telemetry.Pipeline.Resolve

/-!
# What resolving gives

Resolving either binds every reference or stops at one that is not defined, and at the end refuses
two instances with one base tag:

* **`Logging.checkTags_eq_ok`**, **`Logging.checkTags_eq_error_iff`** — the check of the base tags
  passes if they are pairwise distinct, and otherwise stops at the first that an earlier instance has.
* **`LogInstance.ResolvedIn`** — what each instance of a domain is bound to.
* **`Logging.resolve_eq_ok`** — the instances of a successful run are bound, and their base tags are
  pairwise distinct.
* **`Logging.resolve_eq_error`** — in an accepted domain, a run fails by an undefined reference or a
  tag collision and by nothing else.
-/

namespace Telemetry

open Failing

/-! ## Base tags -/

/-- The base tags of instances, in order. -/
def baseTags (is : List LogInstance) : List String :=
  is.map (·.tag.base)

@[simp] theorem Tag.forInstance_base (pipeline receiver : String) (dynamic : Bool) :
    (Tag.forInstance pipeline receiver dynamic).base = pipeline ++ "." ++ receiver := by
  cases dynamic <;> rfl

/-- The base tag of an instance is its pipeline and its receiver, joined by a dot. -/
theorem LogInstance.base_eq (i : LogInstance) : i.tag.base = i.pipeline ++ "." ++ i.receiverId :=
  Tag.forInstance_base _ _ _

/-- The tags pass if they are new and differ from each other. The induction is on the instances that
are still to be looked at, with the owners growing. -/
theorem Logging.checkTags_eq_ok {is : List LogInstance} {owners : List (String × LogInstance)} :
    Logging.checkTags owners is = .ok () ↔
      (baseTags is).Nodup ∧ ∀ b ∈ baseTags is, owners.lookup b = none := by
  induction is generalizing owners with
  | nil => simp [Logging.checkTags, baseTags]
  | cons i is ih =>
      rw [Logging.checkTags]
      cases ho : owners.lookup i.tag.base with
      | some first =>
          constructor
          · intro h
            exact nomatch h
          · rintro ⟨-, h⟩
            rw [h i.tag.base List.mem_cons_self] at ho
            exact nomatch ho
      | none =>
          show Logging.checkTags ((i.tag.base, i) :: owners) is = .ok () ↔ _
          rw [ih]
          simp only [baseTags, List.map_cons, List.nodup_cons, List.forall_mem_cons, ho, true_and]
          constructor
          · rintro ⟨hn, h⟩
            refine ⟨⟨?_, hn⟩, ?_⟩
            · intro hm
              have hl := h _ hm
              rw [List.lookup_cons_self] at hl
              exact nomatch hl
            · intro b hb
              have hl := h b hb
              rw [List.lookup_cons] at hl
              split at hl
              · exact nomatch hl
              · exact hl
          · rintro ⟨⟨hi, hn⟩, h⟩
            refine ⟨hn, ?_⟩
            intro b hb
            have hne : b ≠ i.tag.base := fun he => hi (he ▸ hb)
            rw [List.lookup_cons, beq_false_of_ne hne]
            exact h b hb

namespace Logging

/-- The owners of tags when some instances have been looked at, the latest first. -/
def owners (seen : List LogInstance) : List (String × LogInstance) :=
  seen.map fun i => (i.tag.base, i)

/-- The failure at an instance whose base tag an earlier one has. -/
def collision (first second : LogInstance) : CompileError :=
  .tagCollision second.tag.base first.pipeline first.receiverId second.pipeline second.receiverId

/-- The owner of a tag is an instance that was looked at and has it. -/
theorem mem_of_lookup_owners {seen : List LogInstance} {tag : String} {i : LogInstance}
    (h : (owners seen).lookup tag = some i) : i ∈ seen ∧ i.tag.base = tag := by
  obtain ⟨l₁, l₂, hsplit, -⟩ := List.lookup_eq_some_iff.mp h
  have hmem : (tag, i) ∈ owners seen := by
    rw [hsplit]
    exact List.mem_append_right _ List.mem_cons_self
  obtain ⟨j, hj, he⟩ := List.mem_map.mp hmem
  obtain ⟨rfl, rfl⟩ := Prod.mk.inj he
  exact ⟨hj, rfl⟩

/-- A tag has no owner exactly if no instance that was looked at has it. -/
theorem lookup_owners_eq_none {seen : List LogInstance} {tag : String} :
    (owners seen).lookup tag = none ↔ tag ∉ baseTags seen := by
  rw [List.lookup_eq_none_iff, owners, List.forall_mem_map, baseTags, List.mem_map]
  constructor
  · rintro h ⟨i, hi, rfl⟩
    simpa using h i hi
  · intro h i hi
    simpa using fun he => h ⟨i, hi, he.symm⟩

/-- The check of the tags stops at the first instance whose tag an earlier one has. The induction is
on the instances that are still to be looked at, with those seen growing. -/
theorem checkTags_owners_eq_error {is seen : List LogInstance} (hn : (baseTags seen).Nodup)
    {e : CompileError} :
    checkTags (owners seen) is = .error e ↔
      ∃ before second after first, is = before ++ second :: after ∧
        (baseTags (before ++ seen)).Nodup ∧ first ∈ before ++ seen ∧
        first.tag.base = second.tag.base ∧ e = collision first second := by
  induction is generalizing seen with
  | nil =>
      refine iff_of_false (fun he => nomatch he) ?_
      rintro ⟨before, second, after, first, his, -⟩
      exact absurd his (by simp)
  | cons i is ih =>
      rw [checkTags]
      cases ho : (owners seen).lookup i.tag.base with
      | some j =>
          obtain ⟨hj, htag⟩ := mem_of_lookup_owners ho
          show Except.error (collision j i) = Except.error e ↔ _
          constructor
          · intro he
            exact ⟨[], i, is, j, rfl, hn, hj, htag, (Except.error.inj he).symm⟩
          · rintro ⟨before, second, after, first, his, hn', hfirst, htag', rfl⟩
            cases before with
            | nil =>
                obtain ⟨rfl, -⟩ := List.cons.inj his
                rw [List.inj_on_of_nodup_map hn hfirst hj (htag'.trans htag.symm)]
            | cons b before =>
                -- the tag of `i` already occurs among those seen
                obtain ⟨rfl, -⟩ := List.cons.inj his
                refine absurd (List.mem_map.mpr ⟨j, ?_, htag⟩) (List.nodup_cons.mp hn').1
                exact List.mem_append_right _ hj
      | none =>
          have hnew := lookup_owners_eq_none.mp ho
          have hn' : (baseTags (i :: seen)).Nodup := List.nodup_cons.mpr ⟨hnew, hn⟩
          show checkTags (owners (i :: seen)) is = .error e ↔ _
          rw [ih hn']
          -- `i` moves from the instances before the collision to those seen
          have hmiddle : ∀ before : List LogInstance,
              (before ++ i :: seen).Perm (i :: before ++ seen) :=
            fun before => List.perm_middle
          constructor
          · rintro ⟨before, second, after, first, rfl, hnodup, hfirst, htag, he⟩
            exact ⟨i :: before, second, after, first, rfl,
              ((hmiddle before).map _).nodup_iff.mp hnodup, (hmiddle before).mem_iff.mp hfirst, htag,
              he⟩
          · rintro ⟨before, second, after, first, his, hnodup, hfirst, htag, he⟩
            cases before with
            | nil =>
                obtain ⟨rfl, -⟩ := List.cons.inj his
                exact absurd (List.mem_map.mpr ⟨first, hfirst, htag⟩) hnew
            | cons b before =>
                obtain ⟨rfl, rfl⟩ := List.cons.inj his
                exact ⟨before, second, after, first, rfl,
                  ((hmiddle before).map _).nodup_iff.mpr hnodup,
                  (hmiddle before).mem_iff.mpr hfirst, htag, he⟩

/-- **The check of the tags stops at the first instance whose tag an earlier one has,** and names
that one. -/
theorem checkTags_eq_error_iff {is : List LogInstance} {e : CompileError} :
    checkTags [] is = .error e ↔
      ∃ before second after first, is = before ++ second :: after ∧ (baseTags before).Nodup ∧
        first ∈ before ∧ first.tag.base = second.tag.base ∧ e = collision first second := by
  have hnone : (baseTags []).Nodup := List.nodup_nil
  show checkTags (owners []) is = .error e ↔ _
  rw [checkTags_owners_eq_error hnone]
  simp only [List.append_nil]

/-- Only a tag collision stops the check of the tags. -/
theorem checkTags_eq_error {is : List LogInstance} {e : CompileError}
    (h : checkTags [] is = .error e) : ∃ tag p r p' r', e = .tagCollision tag p r p' r' := by
  obtain ⟨_, second, _, first, -, -, -, -, rfl⟩ := checkTags_eq_error_iff.mp h
  exact ⟨_, _, _, _, _, rfl⟩

end Logging

/-! ## Bound references -/

/-- What an instance of a domain is bound to: a pipeline for the engine that lists its receiver, the
definitions under the listed ids, and the exporters of the pipeline. -/
structure LogInstance.ResolvedIn (l : Logging) (engine : LogEngine) (i : LogInstance) : Prop where
  pipeline : ∃ p, l.pipelines.get? i.pipeline = some p ∧ p.engine = engine ∧
    i.receiverId ∈ p.receivers ∧
    List.Forall₂ (fun id b => l.bindProcessor i.pipeline id = .ok b) p.processors i.processors ∧
    l.exporterIds i.pipeline p.exporters = .ok i.exporters
  receiver : ∃ r, l.receivers.get? i.receiverId = some r ∧ i.receiver = .configured r

/-- A listed receiver is bound to its definition. -/
theorem Logging.bindReceiver_eq_ok {l : Logging} {pipeline id : String} {r : LogReceiver}
    (h : l.bindReceiver pipeline id = .ok r) :
    ∃ config, l.receivers.get? id = some config ∧ r = .configured config := by
  rw [Logging.bindReceiver] at h
  cases hg : l.receivers.get? id with
  | none =>
      rw [hg] at h
      exact nomatch h
  | some config =>
      rw [hg] at h
      exact ⟨config, rfl, (Except.ok.inj h).symm⟩

/-- A processor is bound under the id that the pipeline lists: to its definition, or to the built-in
parser of that name. -/
theorem Logging.bindProcessor_eq_ok {l : Logging} {pipeline id : String} {b : Binding}
    (h : l.bindProcessor pipeline id = .ok b) :
    b.id = id ∧ ((ParserDef.isBuiltin id = true ∧ b.processor = .builtinParser id) ∨
      ∃ config, l.processors.get? id = some config ∧ b.processor = .configured config) := by
  rw [Logging.bindProcessor] at h
  by_cases hr : isReserved id = true
  · rw [if_pos hr] at h
    by_cases hb : ParserDef.isBuiltin id = true
    · rw [if_pos hb] at h
      obtain rfl := Except.ok.inj h
      exact ⟨rfl, .inl ⟨hb, rfl⟩⟩
    · rw [if_neg hb] at h
      exact nomatch h
  · rw [if_neg hr] at h
    cases hg : l.processors.get? id with
    | none =>
        rw [hg] at h
        exact nomatch h
    | some config =>
        rw [hg] at h
        obtain rfl := Except.ok.inj h
        exact ⟨rfl, .inr ⟨config, rfl, rfl⟩⟩

/-- The instances of one pipeline are bound to what it lists. -/
theorem Logging.instancesOf_eq_ok {l : Logging} {engine : LogEngine} {id : String} {p : LogPipeline}
    {is : List LogInstance} (hp : l.pipelines.get? id = some p) (he : p.engine = engine)
    (h : l.instancesOf id p = .ok is) : ∀ i ∈ is, i.ResolvedIn l engine := by
  rw [Logging.instancesOf] at h
  obtain ⟨processors, hprocessors, h⟩ := bind_eq_ok.mp h
  obtain ⟨exporters, hexporters, h⟩ := bind_eq_ok.mp h
  intro i hi
  obtain ⟨receiverId, hr, hb⟩ := exists_of_mem_mapM h hi
  obtain ⟨receiver, hreceiver, hb⟩ := bind_eq_ok.mp hb
  obtain rfl := Except.ok.inj hb
  exact ⟨⟨p, hp, he, hr, mapM_eq_ok.mp hprocessors, hexporters⟩, bindReceiver_eq_ok hreceiver⟩

/-- A successful run comes from the instances of each pipeline for the engine, whose tags passed. -/
theorem Logging.resolve_parts {l : Logging} {engine : LogEngine} {is : List LogInstance}
    (h : l.resolve engine = .ok is) :
    ∃ parts, (l.pipelines.entries.filter (·.2.engine = engine)).mapM
        (fun (id, p) => l.instancesOf id p) = .ok parts ∧ parts.flatten = is ∧
      Logging.checkTags [] is = .ok () := by
  rw [Logging.resolve] at h
  obtain ⟨_, -, h⟩ := bind_eq_ok.mp h
  obtain ⟨parts, hparts, h⟩ := bind_eq_ok.mp h
  obtain ⟨_, htags, h⟩ := bind_eq_ok.mp h
  obtain rfl := Except.ok.inj h
  exact ⟨parts, hparts, rfl, htags⟩

/-- **Every instance of a successful run is bound** to what its pipeline lists. -/
theorem Logging.resolvedIn_of_resolve {l : Logging} {engine : LogEngine} {is : List LogInstance}
    (h : l.resolve engine = .ok is) : ∀ i ∈ is, i.ResolvedIn l engine := by
  obtain ⟨parts, hparts, rfl, -⟩ := resolve_parts h
  intro i hi
  obtain ⟨part, hpart, hi⟩ := List.mem_flatten.mp hi
  obtain ⟨⟨id, p⟩, hmem, hp⟩ := exists_of_mem_mapM hparts hpart
  obtain ⟨hmem, he⟩ := List.mem_filter.mp hmem
  exact instancesOf_eq_ok (Keyed.mem_entries_iff.mp hmem) (by simpa using he) hp i hi

/-- **The base tags of a successful run are pairwise distinct.** -/
theorem Logging.baseTags_nodup {l : Logging} {engine : LogEngine} {is : List LogInstance}
    (h : l.resolve engine = .ok is) : (baseTags is).Nodup := by
  obtain ⟨-, -, -, htags⟩ := resolve_parts h
  exact (checkTags_eq_ok.mp htags).1

/-- **Each receiver that a pipeline for the engine lists has an instance** after a successful run. -/
theorem Logging.exists_instance {l : Logging} {engine : LogEngine} {is : List LogInstance}
    (h : l.resolve engine = .ok is) {id : String} {p : LogPipeline}
    (hp : l.pipelines.get? id = some p) (he : p.engine = engine) {r : String}
    (hr : r ∈ p.receivers) : ∃ i ∈ is, i.pipeline = id ∧ i.receiverId = r := by
  obtain ⟨parts, hparts, rfl, -⟩ := resolve_parts h
  have hmem : (id, p) ∈ l.pipelines.entries.filter (·.2.engine = engine) :=
    List.mem_filter.mpr ⟨Keyed.mem_entries_iff.mpr hp, by simpa using he⟩
  obtain ⟨part, hpart, hinstances⟩ := exists_of_mem_forall₂ (mapM_eq_ok.mp hparts).flip hmem
  have hinstances : l.instancesOf id p = .ok part := hinstances
  rw [Logging.instancesOf] at hinstances
  obtain ⟨processors, -, hinstances⟩ := bind_eq_ok.mp hinstances
  obtain ⟨exporters, -, hinstances⟩ := bind_eq_ok.mp hinstances
  obtain ⟨i, hi, hbind⟩ := exists_of_mem_forall₂ (mapM_eq_ok.mp hinstances).flip hr
  obtain ⟨receiver, -, hbind⟩ := bind_eq_ok.mp hbind
  obtain rfl := Except.ok.inj hbind
  exact ⟨_, List.mem_flatten.mpr ⟨part, hpart, hi⟩, rfl, rfl⟩

/-- A built-in parser that an instance is bound to is one that exists. -/
theorem LogInstance.ResolvedIn.builtin {l : Logging} {engine : LogEngine} {i : LogInstance}
    (h : i.ResolvedIn l engine) {b : Binding} (hb : b ∈ i.processors) {name : String}
    (hp : b.processor = .builtinParser name) : name ∈ ParserDef.builtinNames := by
  obtain ⟨p, -, -, -, hbound, -⟩ := h.pipeline
  obtain ⟨id, -, hbind⟩ := exists_of_mem_forall₂ hbound hb
  obtain ⟨-, ⟨hbuiltin, hid⟩ | ⟨config, -, hconfig⟩⟩ := Logging.bindProcessor_eq_ok hbind
  · rw [hp] at hid
    obtain rfl := LogProcessor.builtinParser.inj hid
    exact List.contains_iff_mem.mp hbuiltin
  · rw [hp] at hconfig
    exact nomatch hconfig

/-! ## Why resolving fails -/

/-- Why the instances of one pipeline cannot be had: a reference of it is not defined. -/
theorem Logging.instancesOf_eq_error {l : Logging} {id : String} {p : LogPipeline}
    {e : CompileError} (h : l.instancesOf id p = .error e) :
    ∃ role ref, e = .undefinedReference .logging role ref id := by
  rw [Logging.instancesOf] at h
  rcases bind_eq_error.mp h with h | ⟨processors, -, h⟩
  · obtain ⟨-, ref, -, -, -, h⟩ := mapM_eq_error.mp h
    rw [Logging.bindProcessor, Logging.undefined] at h
    refine ⟨.processor, ref, ?_⟩
    split at h
    · split at h
      · exact nomatch h
      · exact (Except.error.inj h).symm
    · split at h
      · exact nomatch h
      · exact (Except.error.inj h).symm
  rcases bind_eq_error.mp h with h | ⟨exporters, -, h⟩
  · rw [Logging.exporterIds] at h
    split at h
    · exact nomatch h
    · rcases bind_eq_error.mp h with h | ⟨_, -, h⟩
      · obtain ⟨-, ref, -, -, -, h⟩ := forM_eq_error.mp h
        rw [Logging.checkExporter, Logging.undefined] at h
        refine ⟨.exporter, ref, ?_⟩
        split at h
        · exact nomatch h
        · exact (Except.error.inj h).symm
      · exact nomatch h
  · obtain ⟨-, ref, -, -, -, h⟩ := mapM_eq_error.mp h
    rcases bind_eq_error.mp h with h | ⟨receiver, -, h⟩
    · rw [Logging.bindReceiver, Logging.undefined] at h
      refine ⟨.receiver, ref, ?_⟩
      split at h
      · exact nomatch h
      · exact (Except.error.inj h).symm
    · exact nomatch h

/-- **Why an accepted domain cannot be resolved:** a reference is not defined, or two instances have
one base tag. -/
theorem Logging.resolve_eq_error {l : Logging} (hl : l.Accepted) {engine : LogEngine}
    {e : CompileError} (h : l.resolve engine = .error e) :
    (∃ role ref pipeline, e = .undefinedReference .logging role ref pipeline) ∨
      ∃ tag p r p' r', e = .tagCollision tag p r p' r' := by
  rw [Logging.resolve] at h
  rcases bind_eq_error.mp h with h | ⟨_, -, h⟩
  · rw [hl.ids] at h
    exact nomatch h
  rcases bind_eq_error.mp h with h | ⟨parts, -, h⟩
  · obtain ⟨-, ⟨id, p⟩, -, -, -, h⟩ := mapM_eq_error.mp h
    obtain ⟨role, ref, he⟩ := instancesOf_eq_error h
    exact .inl ⟨role, ref, id, he⟩
  rcases bind_eq_error.mp h with h | ⟨_, -, h⟩
  · exact .inr (checkTags_eq_error h)
  · exact nomatch h

/-! ## The instances of a configuration -/

/-- The instances of a configuration are bound in its logging domain, and have distinct base
tags. -/
theorem Config.logInstances_eq_ok {c : Config} {engine : LogEngine} {is : List LogInstance}
    (h : c.logInstances engine = .ok is) :
    (baseTags is).Nodup ∧ ∀ i ∈ is, ∃ l, c.logging = some l ∧ i.ResolvedIn l engine := by
  rw [Config.logInstances] at h
  cases hl : c.logging with
  | none =>
      rw [hl] at h
      obtain rfl : [] = is := Except.ok.inj h
      exact ⟨List.nodup_nil, fun i hi => nomatch hi⟩
  | some l =>
      rw [hl] at h
      have h : l.resolve engine = .ok is := h
      exact ⟨Logging.baseTags_nodup h, fun i hi => ⟨l, rfl, Logging.resolvedIn_of_resolve h i hi⟩⟩

/-- The instances of a configuration have receivers that were configured. -/
theorem Config.receiver_configured {c : Config} {engine : LogEngine} {is : List LogInstance}
    (h : c.logInstances engine = .ok is) :
    ∀ i ∈ is, ∃ config, i.receiver = .configured config := by
  intro i hi
  obtain ⟨l, -, hl⟩ := (Config.logInstances_eq_ok h).2 i hi
  obtain ⟨config, -, hr⟩ := hl.receiver
  exact ⟨config, hr⟩

/-- **Why an accepted configuration has no instances:** a reference is not defined, or two instances
have one base tag. -/
theorem Config.logInstances_eq_error {c : Config} (hc : c.check = .ok ()) {engine : LogEngine}
    {e : CompileError} (h : c.logInstances engine = .error e) :
    (∃ role ref pipeline, e = .undefinedReference .logging role ref pipeline) ∨
      ∃ tag p r p' r', e = .tagCollision tag p r p' r' := by
  rw [Config.logInstances] at h
  cases hl : c.logging with
  | none =>
      rw [hl] at h
      exact nomatch h
  | some l =>
      rw [hl] at h
      exact Logging.resolve_eq_error (Config.logging_accepted hc hl) h

/-- The pipeline of an instance of an accepted configuration is not reserved. -/
theorem Config.pipeline_not_reserved {c : Config} (hc : c.check = .ok ()) {engine : LogEngine}
    {is : List LogInstance} (h : c.logInstances engine = .ok is) :
    ∀ i ∈ is, isReserved i.pipeline = false := by
  intro i hi
  obtain ⟨l, hl, hi⟩ := (Config.logInstances_eq_ok h).2 i hi
  obtain ⟨p, hp, -⟩ := hi.pipeline
  exact (Config.logging_accepted hc hl).not_reserved
    (.inr (.inr (.inr (Keyed.mem_keys_iff.mpr ⟨p, hp⟩))))

end Telemetry
