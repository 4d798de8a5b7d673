import Telemetry.Proofs.Binding

/-!
# When tags collide

The base tag of an instance is its pipeline and its receiver joined by a dot, and ids may contain
dots themselves. So different instances can have one tag; where the ids of the pipelines have no
dot, the tag can be cut at its first dot, and only an instance that comes twice collides.

* **`Logging.exists_checkTags_eq_error_iff`** — the check of the tags fails exactly if two instances
  have the same.
* **`Logging.sublist_listings_iff`** — a listing comes twice exactly if its pipeline lists its
  receiver twice.
* **`Logging.NoDots.twice_of_collision`** — where the pipelines have no dot in their ids, a listing
  that comes twice is the only collision.
* **`tagCollisions_exact`** — both for all lists of instances and for all configurations.
-/

namespace Telemetry

open Failing

/-! ## Two instances of one tag -/

/-- A member of the part before another one comes before it. -/
theorem pair_sublist {α : Type} {a b : α} {before after : List α} (h : a ∈ before) :
    [a, b].Sublist (before ++ b :: after) :=
  (List.singleton_sublist.mpr h).append (List.singleton_sublist.mpr List.mem_cons_self)

/-- **The check of the tags fails exactly if two instances have the same.** -/
theorem Logging.exists_checkTags_eq_error_iff {is : List LogInstance} :
    (∃ e, checkTags [] is = .error e) ↔
      ∃ first second, [first, second].Sublist is ∧ first.tag.base = second.tag.base := by
  constructor
  · rintro ⟨e, he⟩
    obtain ⟨before, second, after, first, rfl, -, hfirst, htag, -⟩ := checkTags_eq_error_iff.mp he
    exact ⟨first, second, pair_sublist hfirst, htag⟩
  · rintro ⟨first, second, htwo, htag⟩
    cases h : checkTags [] is with
    | error e => exact ⟨e, rfl⟩
    | ok u =>
        have htags : (baseTags [first, second]).Sublist (baseTags is) := htwo.map _
        have hn := htags.nodup (checkTags_eq_ok.mp h).1
        rw [baseTags, List.map_cons, List.map_singleton, htag] at hn
        exact absurd List.mem_cons_self (List.nodup_cons.mp hn).1

/-- The owner that the check of the tags names is the only one before. -/
theorem Logging.owner_unique {before : List LogInstance} {first second : LogInstance}
    (hn : (baseTags before).Nodup) (hfirst : first ∈ before)
    (htag : first.tag.base = second.tag.base) :
    ∀ i ∈ before, i.tag.base = second.tag.base ↔ i = first := by
  intro i hi
  constructor
  · intro h
    exact List.inj_on_of_nodup_map hn hi hfirst (h.trans htag.symm)
  · rintro rfl
    exact htag

/-! ## Listings of one tag -/

namespace Logging

variable {l : Logging} {engine : LogEngine}

/-- The pipelines for an engine have ids without a dot. -/
def NoDots (l : Logging) (engine : LogEngine) : Prop :=
  ∀ id p, l.pipelines.get? id = some p → p.engine = engine → '.' ∉ id.toList

/-- A listing is a receiver of a pipeline for the engine. -/
theorem mem_listings_iff {s : Listing} :
    s ∈ l.listings engine ↔ l.pipelines.get? s.pipeline = some s.lists ∧
      s.lists.engine = engine ∧ s.receiver ∈ s.lists.receivers := by
  rw [listings, List.mem_flatMap, ← and_assoc]
  constructor
  · rintro ⟨⟨id, p⟩, hp, hs⟩
    obtain ⟨r, hr, rfl⟩ := List.mem_map.mp hs
    exact ⟨mem_pipelinesFor_iff.mp hp, hr⟩
  · rintro ⟨hp, hr⟩
    exact ⟨(s.pipeline, s.lists), mem_pipelinesFor_iff.mpr hp, List.mem_map.mpr ⟨_, hr, rfl⟩⟩

/-- The listings are those of each pipeline, if it is one for the engine. -/
theorem listings_eq (l : Logging) (engine : LogEngine) :
    l.listings engine = l.pipelines.entries.flatMap fun (id, p) =>
      if p.engine = engine then p.receivers.map fun r => ⟨id, p, r⟩ else [] := by
  rw [listings, pipelinesFor]
  induction l.pipelines.entries with
  | nil => rfl
  | cons e es ih =>
      by_cases he : e.2.engine = engine
      · simp [he, ih]
      · simp [he, ih]

/-- The listings of one pipeline are what it lists, in order. -/
theorem filter_listings {id : String} {p : LogPipeline} (hp : l.pipelines.get? id = some p)
    (he : p.engine = engine) :
    (l.listings engine).filter (·.pipeline = id) = p.receivers.map fun r => ⟨id, p, r⟩ := by
  rw [listings_eq, List.filter_flatMap, l.pipelines.flatMap_entries (k := id), hp]
  · simp [he, List.filter_map, Function.comp_def]
  · rintro ⟨id', p'⟩ - hne
    have hid : id' ≠ id := hne
    by_cases he' : p'.engine = engine
    · simp [he', hid, List.filter_map, Function.comp_def]
    · simp [he']

/-- **A listing comes twice exactly if its pipeline lists its receiver twice.** -/
theorem sublist_listings_iff {s : Listing} :
    [s, s].Sublist (l.listings engine) ↔ l.pipelines.get? s.pipeline = some s.lists ∧
      s.lists.engine = engine ∧ 2 ≤ s.lists.receivers.count s.receiver := by
  rw [← List.replicate_sublist_iff]
  constructor
  · intro h
    obtain ⟨hp, he, -⟩ := mem_listings_iff.mp (h.subset List.mem_cons_self)
    refine ⟨hp, he, ?_⟩
    have hfilter := h.filter (·.pipeline = s.pipeline)
    rw [filter_listings hp he] at hfilter
    simpa [List.map_map, Function.comp_def] using hfilter.map Listing.receiver
  · rintro ⟨hp, he, h⟩
    have hmap := h.map fun r => (⟨s.pipeline, s.lists, r⟩ : Listing)
    rw [← filter_listings hp he] at hmap
    exact hmap.trans List.filter_sublist

/-- Where the pipelines have no dot in their ids, the tag says which listing it is. -/
theorem NoDots.tag_inj (h : l.NoDots engine) {s s' : Listing} (hs : s ∈ l.listings engine)
    (hs' : s' ∈ l.listings engine) (htag : s.tag = s'.tag) : s = s' := by
  obtain ⟨hp, he, -⟩ := mem_listings_iff.mp hs
  obtain ⟨hp', he', -⟩ := mem_listings_iff.mp hs'
  obtain ⟨hid, hr⟩ :=
    Text.append_sep_inj_of_first (d := '.') rfl (h _ _ hp he) (h _ _ hp' he') htag
  obtain ⟨id, p, r⟩ := s
  obtain ⟨id', p', r'⟩ := s'
  obtain rfl : id = id' := hid
  obtain rfl : r = r' := hr
  obtain rfl : p = p' := Option.some.inj (hp.symm.trans hp')
  rfl

variable {D : Reference → Prop}

/-- **Where the pipelines have no dot in their ids, only a listing that comes twice collides,** and
both sides of the collision are that listing. -/
theorem NoDots.twice_of_collision (h : l.NoDots engine) (hl : l.Accepted)
    (hD : ∀ r ∈ l.references engine, (D r ↔ l.Knows r)) {tag p r p' r' : String}
    (he : l.resolve engine = .error (.tagCollision tag p r p' r')) :
    (∀ r ∈ l.references engine, D r) ∧ ∃ s, [s, s].Sublist (l.listings engine) ∧
      CompileError.tagCollision tag p r p' r' = s.clash s := by
  rcases (resolve_eq_error_iff hl hD _).mp he with
    ⟨_, _, _, -, -, -, he⟩ | ⟨hall, before, s, after, first, hsplit, -, hfirst, htag, he⟩
  · exact nomatch he
  · have htwo : [first, s].Sublist (l.listings engine) := by
      rw [hsplit]
      exact pair_sublist hfirst
    obtain rfl := h.tag_inj (htwo.subset List.mem_cons_self)
      (htwo.subset (List.mem_cons_of_mem _ List.mem_cons_self)) htag
    exact ⟨hall, first, htwo, he⟩

/-- A listing that comes twice collides, if every reference is defined. -/
theorem exists_collision (hl : l.Accepted) (hD : ∀ r ∈ l.references engine, (D r ↔ l.Knows r))
    (hall : ∀ r ∈ l.references engine, D r) {s : Listing}
    (hs : [s, s].Sublist (l.listings engine)) :
    ∃ tag p r p' r', l.resolve engine = .error (.tagCollision tag p r p' r') := by
  cases h : l.resolve engine with
  | ok is =>
      obtain ⟨-, hn⟩ := (exists_resolve_iff hl hD).mp ⟨is, h⟩
      exact absurd hs (List.nodup_iff_sublist.mp (hn.of_map _) s)
  | error e =>
      rcases (resolve_eq_error_iff hl hD e).mp h with
        ⟨before, r, after, hsplit, -, hr, -⟩ | ⟨-, _, _, _, _, -, -, -, -, rfl⟩
      · refine absurd (hall r ?_) hr
        rw [hsplit]
        exact List.mem_append_right _ List.mem_cons_self
      · exact ⟨_, _, _, _, _, rfl⟩

end Logging

/-! ## The result -/

/-- A pipeline for an engine lists a receiver at least twice. -/
def Config.ListsTwice (c : Config) (engine : LogEngine) (id receiver : String) : Prop :=
  ∃ l p, c.logging = some l ∧ l.pipelines.get? id = some p ∧ p.engine = engine ∧
    2 ≤ p.receivers.count receiver

/-- The listings that come twice are those of a pipeline that lists a receiver twice. -/
theorem Config.listsTwice_iff {c : Config} {l : Logging} (hl : c.logging = some l)
    {engine : LogEngine} {id receiver : String} :
    c.ListsTwice engine id receiver ↔
      ∃ p, [⟨id, p, receiver⟩, ⟨id, p, receiver⟩].Sublist (l.listings engine) := by
  simp only [Config.ListsTwice, Logging.sublist_listings_iff, hl, Option.some.injEq]
  constructor
  · rintro ⟨_, p, rfl, h⟩
    exact ⟨p, h⟩
  · rintro ⟨p, h⟩
    exact ⟨l, p, rfl, h⟩

/-- **Tag collisions are reported exactly.**

* The check of the tags of any instances fails if and only if two of them have the same base tag. It
  then names the earliest instance whose tag occurred before, and of those before it the only one
  that has this tag.
* For an accepted configuration in which no pipeline for the engine has a dot in its id, whatever
  the ids of the receivers, resolving fails by a collision if and only if every reference is defined
  and a pipeline lists a receiver twice; and both sides of the collision are such a pipeline and
  receiver. -/
theorem tagCollisions_exact :
    (∀ is : List LogInstance,
      ((∃ e, Logging.checkTags [] is = .error e) ↔
        ∃ first second, [first, second].Sublist is ∧ first.tag.base = second.tag.base) ∧
      ∀ e, Logging.checkTags [] is = .error e ↔
        ∃ before second after first, is = before ++ second :: after ∧ (baseTags before).Nodup ∧
          first ∈ before ∧ (∀ i ∈ before, i.tag.base = second.tag.base ↔ i = first) ∧
          e = .tagCollision second.tag.base first.pipeline first.receiverId second.pipeline
            second.receiverId) ∧
    ∀ (c : Config) (engine : LogEngine), c.check = .ok () →
      (∀ l, c.logging = some l → l.NoDots engine) →
      ((∃ tag p r p' r', c.logInstances engine = .error (.tagCollision tag p r p' r')) ↔
        (∀ ref ∈ c.logReferences engine, c.Defines ref) ∧ ∃ p r, c.ListsTwice engine p r) ∧
      ∀ tag p r p' r', c.logInstances engine = .error (.tagCollision tag p r p' r') →
        tag = p ++ "." ++ r ∧ p' = p ∧ r' = r ∧ c.ListsTwice engine p r := by
  refine ⟨?_, ?_⟩
  · intro is
    refine ⟨Logging.exists_checkTags_eq_error_iff, ?_⟩
    intro e
    rw [Logging.checkTags_eq_error_iff]
    constructor
    · rintro ⟨before, second, after, first, hsplit, hn, hfirst, htag, he⟩
      exact ⟨before, second, after, first, hsplit, hn, hfirst,
        Logging.owner_unique hn hfirst htag, he⟩
    · rintro ⟨before, second, after, first, hsplit, hn, hfirst, hunique, he⟩
      exact ⟨before, second, after, first, hsplit, hn, hfirst, (hunique first hfirst).mpr rfl, he⟩
  · intro c engine hc hdots
    rw [Config.logInstances, Config.logReferences]
    cases hl : c.logging with
    | none =>
        refine ⟨iff_of_false ?_ ?_, ?_⟩
        · rintro ⟨tag, p, r, p', r', he⟩
          cases he
        · rintro ⟨-, p, r, l, _, hl', -⟩
          rw [hl] at hl'
          cases hl'
        · intro tag p r p' r' he
          cases he
    | some l =>
        have hl' := Config.logging_accepted hc hl
        have hD : ∀ ref ∈ l.references engine, (c.Defines ref ↔ l.Knows ref) :=
          Config.defines_iff_knows hl
        refine ⟨⟨?_, ?_⟩, ?_⟩
        · rintro ⟨tag, p, r, p', r', he⟩
          obtain ⟨hall, s, hs, -⟩ := (hdots l hl).twice_of_collision hl' hD he
          exact ⟨hall, s.pipeline, s.receiver, (Config.listsTwice_iff hl).mpr ⟨s.lists, hs⟩⟩
        · rintro ⟨hall, p, r, htwice⟩
          obtain ⟨lists, hs⟩ := (Config.listsTwice_iff hl).mp htwice
          exact Logging.exists_collision hl' hD hall hs
        · intro tag p r p' r' he
          obtain ⟨-, s, hs, hclash⟩ := (hdots l hl).twice_of_collision hl' hD he
          obtain ⟨rfl, rfl, rfl, rfl, rfl⟩ := CompileError.tagCollision.inj hclash
          exact ⟨rfl, rfl, rfl, (Config.listsTwice_iff hl).mpr ⟨s.lists, hs⟩⟩

/-- Receivers with dots in their ids, one of which a pipeline lists twice. The pipeline for the other
engine has a dot in its id, and does not count. -/
def dottedReceivers : Logging where
  receivers := .ofList [("a.b", .files { includePaths := ["/a.log"] }),
    ("b", .files { includePaths := ["/b.log"] })]
  pipelines := .ofList [
    ("p", { receivers := ["a.b", "b", "a.b"] }),
    ("q.a", { receivers := ["b"], engine := .collector })]

theorem tagCollisions_exact_dottedReceivers :
    Config.check { logging := some dottedReceivers } = .ok () ∧
    dottedReceivers.NoDots .fluentBit ∧
    Config.logInstances { logging := some dottedReceivers } .fluentBit
      = .error (.tagCollision "p.a.b" "p" "a.b" "p" "a.b") ∧
    Config.ListsTwice { logging := some dottedReceivers } .fluentBit "p" "a.b" := by
  have hc : Config.check { logging := some dottedReceivers } = .ok () := rfl
  have hdots : dottedReceivers.NoDots .fluentBit := by
    intro id p hp he
    have hall : ∀ e ∈ dottedReceivers.pipelinesFor .fluentBit, '.' ∉ e.1.toList := by
      decide
    exact hall (id, p) (Logging.mem_pipelinesFor_iff.mpr ⟨hp, he⟩)
  have he : Config.logInstances { logging := some dottedReceivers } .fluentBit
      = .error (.tagCollision "p.a.b" "p" "a.b" "p" "a.b") :=
    eq_error_of_failure? rfl
  obtain ⟨-, hboth⟩ := tagCollisions_exact.2 { logging := some dottedReceivers } .fluentBit hc
    (fun l hl => Option.some.inj hl ▸ hdots)
  exact ⟨hc, hdots, he, (hboth _ _ _ _ _ he).2.2.2⟩

end Telemetry
