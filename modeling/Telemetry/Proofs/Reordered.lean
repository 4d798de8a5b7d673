import Telemetry.Proofs.Shuffled
import Telemetry.Yaml.Document

/-!
# Documents with their keys in another order

`Document.Reordered` relates the documents that differ in the order of the entries of their
mappings, at any depth, while sequences keep their order. Typing the scalars of such documents gives
values that are `Value.Alike`, if no mapping has two keys with one text (**`Rearranged.value?`**).
-/

namespace Telemetry

/-- Values that differ in the order of the entries of their tables, whose text keys are distinct. -/
inductive Value.Alike : Value → Value → Prop
  | refl (v : Value) : Alike v v
  | list {items items' : List Value} :
      List.Forall₂ Alike items items' → Alike (.list items) (.list items')
  | table {entries moved entries' : List (Value × Value)} :
      (entries.filterMap (·.1.text?)).Nodup → entries.Perm moved →
      List.Forall₂ (Prod.RProd Alike Alike) moved entries' →
      Alike (.table entries) (.table entries')

namespace Yaml.Document

/-- The same document with the entries of any of its mappings in any order. -/
inductive Reordered : Document → Document → Prop
  | refl (d : Document) : Reordered d d
  | sequence (tag : Option String) {items items' : List Document} :
      List.Forall₂ Reordered items items' → Reordered (.sequence tag items) (.sequence tag items')
  | mapping (tag : Option String) {entries moved entries' : List (Document × Document)} :
      entries.Perm moved → List.Forall₂ (Prod.RProd Reordered Reordered) moved entries' →
      Reordered (.mapping tag entries) (.mapping tag entries')

/-- No mapping has two keys with one text. -/
inductive DistinctKeys : Document → Prop
  | scalar (tag : Option String) (isPlain : Bool) (text : String) :
      DistinctKeys (.scalar tag isPlain text)
  | sequence (tag : Option String) {items : List Document} :
      (∀ d ∈ items, DistinctKeys d) → DistinctKeys (.sequence tag items)
  | mapping (tag : Option String) {entries : List (Document × Document)} :
      (entries.filterMap (·.1.text?)).Nodup → (∀ e ∈ entries, DistinctKeys e.1) →
      (∀ e ∈ entries, DistinctKeys e.2) → DistinctKeys (.mapping tag entries)

/-- Reordered documents in which no mapping has two keys with one text. -/
def Rearranged (d d' : Document) : Prop :=
  d.DistinctKeys ∧ Reordered d d'

/-! ## The parts of reordered documents -/

theorem Reordered.text? {d d' : Document} (h : Reordered d d') : d.text? = d'.text? := by
  cases h <;> rfl

theorem Rearranged.eq_scalar {tag : Option String} {isPlain : Bool} {text : String} {d' : Document}
    (h : Rearranged (.scalar tag isPlain text) d') : d' = .scalar tag isPlain text := by
  cases h.2 with
  | refl => rfl

theorem Rearranged.eq_sequence {tag : Option String} {items : List Document} {d' : Document}
    (h : Rearranged (.sequence tag items) d') : ∃ items', d' = .sequence tag items' := by
  cases h.2 with
  | refl => exact ⟨items, rfl⟩
  | sequence => exact ⟨_, rfl⟩

theorem Rearranged.eq_mapping {tag : Option String} {entries : List (Document × Document)}
    {d' : Document} (h : Rearranged (.mapping tag entries) d') :
    ∃ entries', d' = .mapping tag entries' := by
  cases h.2 with
  | refl => exact ⟨entries, rfl⟩
  | mapping => exact ⟨_, rfl⟩

theorem Rearranged.items {tag tag' : Option String} {items items' : List Document}
    (h : Rearranged (.sequence tag items) (.sequence tag' items')) :
    List.Forall₂ Rearranged items items' := by
  obtain ⟨hkeys, h⟩ := h
  cases hkeys with
  | sequence _ hitems =>
      rw [show Rearranged = fun d d' => d.DistinctKeys ∧ Reordered d d' from rfl,
        List.forall₂_and_left]
      refine ⟨hitems, ?_⟩
      cases h with
      | refl => exact List.forall₂_same.mpr fun d _ => .refl d
      | sequence _ hrel => exact hrel

theorem Rearranged.entries {tag tag' : Option String}
    {entries entries' : List (Document × Document)}
    (h : Rearranged (.mapping tag entries) (.mapping tag' entries')) :
    Shuffled (Prod.RProd Rearranged Rearranged) entries entries' := by
  obtain ⟨hkeys, h⟩ := h
  cases hkeys with
  | mapping _ _ hkey hvalue =>
      have hsh : Shuffled (Prod.RProd Reordered Reordered) entries entries' := by
        cases h with
        | refl => exact ⟨entries, .refl _, List.forall₂_same.mpr fun e _ => ⟨.refl e.1, .refl e.2⟩⟩
        | mapping _ hperm hrel => exact ⟨_, hperm, hrel⟩
      refine hsh.and_mem.imp ?_
      rintro e _ ⟨he, ⟨hk, hv⟩⟩
      exact ⟨⟨hkey _ he, hk⟩, ⟨hvalue _ he, hv⟩⟩

theorem Rearranged.nodup {tag : Option String} {entries : List (Document × Document)}
    {d' : Document} (h : Rearranged (.mapping tag entries) d') :
    (entries.filterMap (·.1.text?)).Nodup := by
  cases h.1 with
  | mapping _ hnodup _ _ => exact hnodup

/-! ## Typing scalars -/

theorem valueItems?_eq (items : List Document) : valueItems? items = items.mapM value? := by
  induction items with
  | nil => rfl
  | cons d items ih => rw [valueItems?, ih, List.mapM_cons]

theorem valueEntries?_eq (entries : List (Document × Document)) :
    valueEntries? entries = entries.mapM (Shuffled.pair? value? value?) := by
  induction entries with
  | nil => rfl
  | cons e entries ih =>
      obtain ⟨k, v⟩ := e
      rw [valueEntries?, ih, List.mapM_cons, Shuffled.pair?]
      simp only [bind_assoc, pure_bind]

theorem text?_of_intValue? {n : Int} {v : Value} (h : intValue? n = some v) : v.text? = none := by
  rw [intValue?] at h
  split at h
  · obtain rfl := Option.some.inj h
    rfl
  · exact nomatch h

theorem text?_of_plainValue? {text s : String} {v : Value} (h : plainValue? text = some v)
    (hs : v.text? = some s) : text = s := by
  rw [plainValue?] at h
  split at h
  case h_3 => exact nomatch (text?_of_intValue? h).symm.trans hs
  case h_5 =>
    obtain rfl := Option.some.inj h
    exact Option.some.inj hs
  all_goals
    obtain rfl := Option.some.inj h
    exact nomatch hs

theorem text?_of_taggedValue? {tag text s : String} {v : Value}
    (h : taggedValue? tag text = some v) (hs : v.text? = some s) : text = s := by
  unfold taggedValue? at h
  split at h
  · obtain ⟨b, _, rfl⟩ := Option.map_eq_some_iff.mp h
    exact nomatch hs
  · obtain ⟨n, _, h⟩ := Option.bind_eq_some_iff.mp h
    exact nomatch (text?_of_intValue? h).symm.trans hs
  · split at h
    · obtain rfl := Option.some.inj h
      exact nomatch hs
    · exact nomatch h
  · split at h
    · obtain rfl := Option.some.inj h
      exact nomatch hs
    · exact nomatch h
  · obtain rfl := Option.some.inj h
    exact Option.some.inj hs

/-- The text of a value is the text of the scalar that it was. -/
theorem text?_of_value? {d : Document} {v : Value} {s : String} (h : d.value? = some v)
    (hs : v.text? = some s) : d.text? = some s := by
  cases d with
  | scalar tag isPlain text =>
      refine congrArg some ?_
      simp only [value?] at h
      split at h
      · exact nomatch h
      · split at h
        · exact text?_of_taggedValue? h hs
        · split at h
          · exact text?_of_plainValue? h hs
          · obtain rfl := Option.some.inj h
            exact Option.some.inj hs
  | sequence tag items =>
      rw [value?] at h
      split at h
      · exact nomatch h
      · obtain ⟨vs, _, rfl⟩ := Option.map_eq_some_iff.mp h
        exact nomatch hs
  | mapping tag entries =>
      rw [value?] at h
      split at h
      · exact nomatch h
      · obtain ⟨vs, _, rfl⟩ := Option.map_eq_some_iff.mp h
        exact nomatch hs

/-- Shuffled entries are read as tables that are alike, if they have distinct keys and no key gets a
text that it had not before. -/
theorem rel_table {α β : Type} {key : α → Option Value} {value : β → Option Value}
    {text : α → Option String} {es es' : List (α × β)}
    (h : Shuffled (Prod.RProd (fun k k' => Option.Rel Value.Alike (key k) (key k'))
      fun v v' => Option.Rel Value.Alike (value v) (value v')) es es')
    (htext : ∀ k k' s, key k = some k' → k'.text? = some s → text k = some s)
    (hn : (es.filterMap (text ·.1)).Nodup) :
    Option.Rel (fun vs vs' => Value.Alike (.table vs) (.table vs'))
      (es.mapM (Shuffled.pair? key value)) (es'.mapM (Shuffled.pair? key value)) := by
  have hread := h.mapM_pair? (fun _ _ hk => hk) (fun _ _ hv => hv)
  refine rel_imp (rel_and_left hread fun vs hvs => Shuffled.nodup_of_mapM_pair? hvs htext hn) ?_
  rintro vs vs' ⟨hn, moved, hperm, hrel⟩
  exact .table hn hperm hrel

/-- **Typing the scalars of reordered documents** fails for both, or gives values that are alike. -/
theorem Rearranged.value? {d d' : Document} (h : Rearranged d d') :
    Option.Rel Value.Alike d.value? d'.value? := by
  obtain ⟨hkeys, h⟩ := h
  induction hkeys generalizing d' with
  | scalar tag isPlain text =>
      cases h with
      | refl => exact rel_refl .refl _
  | sequence tag _ ih =>
      cases h with
      | refl => exact rel_refl .refl _
      | sequence _ hrel =>
          rw [Document.value?, Document.value?, valueItems?_eq, valueItems?_eq]
          split
          · exact .none
          · refine rel_map (rel_mapM ?_) fun _ _ => .list
            exact ((List.forall₂_and_left _ _).mpr ⟨ih, hrel⟩).imp fun d d' hd => hd.1 hd.2
  | @mapping tag entries hnodup _ _ ihk ihv =>
      cases h with
      | refl => exact rel_refl .refl _
      | @mapping _ _ moved entries' hperm hrel =>
          rw [Document.value?, Document.value?, valueEntries?_eq, valueEntries?_eq]
          split
          · exact .none
          · refine rel_map (rel_table ((Shuffled.and_mem ⟨moved, hperm, hrel⟩).imp ?_)
              (fun _ _ _ => text?_of_value?) hnodup) fun _ _ hvs => hvs
            rintro e _ ⟨he, ⟨hk, hv⟩⟩
            exact ⟨ihk _ he hk, ihv _ he hv⟩

end Yaml.Document

end Telemetry
