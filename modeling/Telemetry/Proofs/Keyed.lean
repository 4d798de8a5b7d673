import Mathlib.Data.List.Basic
import Mathlib.Data.List.Induction
import Mathlib.Data.List.Nodup
import Telemetry.Keyed

/-!
# What a keyed table holds

The view of a table is its look-up `get?`. Each way to build a table is described by what it does to
that view, and the list of entries is tied to it by **`mem_entries_iff`**: an entry stands in the list
exactly if its key is looked up to its value. The keys of a table that collects a list are exactly
those of the list (**`mem_keys_ofList`**), in strictly ascending order (**`keys_ascending`**), and
what is looked up in it is the value of an entry (**`get?_ofList`**); a list whose keys are distinct
is only put into order (**`entries_ofList_perm`**), as is a table with a new key
(**`entries_insert_perm`**).
-/

namespace Telemetry.Keyed

universe u

variable {α : Type u}

/-! ## Look-up after each operation -/

/-- Looking up behind an insertion finds the new value under its key, and all others as before. -/
theorem lookup_insertEntry (k k' : String) (v : α) (es : List (String × α)) :
    (insertEntry k v es).lookup k' = if k' = k then some v else es.lookup k' := by
  induction es with
  | nil =>
      by_cases h : k' = k
      · simp [insertEntry, h]
      · simp [insertEntry, h, List.lookup_cons, beq_false_of_ne h]
  | cons e es ih =>
      rw [insertEntry]
      by_cases h : k' = k
      · subst h
        split
        · simp
        · split
          · simp
          · rename_i _ hne
            rw [List.lookup_cons, beq_false_of_ne hne, ih]
            simp
      · rw [if_neg h]
        split
        · rw [List.lookup_cons, beq_false_of_ne h]
        · split
          · rename_i _ he
            rw [List.lookup_cons, beq_false_of_ne h, List.lookup_cons, ← he, beq_false_of_ne h]
          · rw [List.lookup_cons, List.lookup_cons, ih, if_neg h]

@[simp] theorem get?_insert (t : Keyed α) (k k' : String) (v : α) :
    (t.insert k v).get? k' = if k' = k then some v else t.get? k' :=
  lookup_insertEntry k k' v t.entries

/-! ## Entries and keys -/

/-- In an ascending list, an entry is what its key is looked up to. -/
theorem mem_iff_lookup {es : List (String × α)} (h : es.Pairwise (fun a b => a.1 < b.1)) (k : String)
    (v : α) : (k, v) ∈ es ↔ es.lookup k = some v := by
  induction es with
  | nil => simp
  | cons e es ih =>
      obtain ⟨he, hes⟩ := List.pairwise_cons.mp h
      rw [List.mem_cons, List.lookup_cons, ih hes]
      by_cases hk : k = e.1
      · -- the key of the first entry is smaller than all others, so none of those has it
        have hno : es.lookup k ≠ some v := by
          intro hm
          have hlt := he (k, v) ((ih hes).mpr hm)
          rw [hk] at hlt
          exact String.lt_irrefl _ hlt
        subst hk
        simp only [BEq.rfl, Option.some.injEq, hno, or_false]
        exact ⟨fun hp => (congrArg Prod.snd hp).symm, fun hv => Prod.ext rfl hv.symm⟩
      · rw [beq_false_of_ne hk]
        exact ⟨fun hm => hm.resolve_left fun hp => hk (congrArg Prod.fst hp), .inr⟩

/-- **An entry of a table is what its key is looked up to.** -/
theorem mem_entries_iff {t : Keyed α} {k : String} {v : α} :
    (k, v) ∈ t.entries ↔ t.get? k = some v :=
  mem_iff_lookup t.ordered k v

/-- The entries of one key: one if the key has a value, and otherwise none. -/
theorem filter_entries (t : Keyed α) (k : String) :
    (t.entries.filter (·.1 = k)).map (·.2) = (t.get? k).toList := by
  obtain ⟨es, h⟩ := t
  show (es.filter (·.1 = k)).map (·.2) = (es.lookup k).toList
  induction es with
  | nil => rfl
  | cons e es ih =>
      obtain ⟨he, hes⟩ := List.pairwise_cons.mp h
      rw [List.lookup_cons]
      by_cases hk : k = e.1
      · -- all later keys are greater, so the first entry is the only one
        have hno : es.filter (·.1 = k) = [] := by
          refine List.filter_eq_nil_iff.mpr ?_
          intro e' he'
          have hlt := he e' he'
          have hne : e'.1 ≠ k := by
            intro h'
            rw [h', hk] at hlt
            exact String.lt_irrefl _ hlt
          simpa using hne
        rw [List.filter_cons_of_pos (by simpa using hk.symm), hno, hk, BEq.rfl]
        rfl
      · rw [List.filter_cons_of_neg (by simpa using fun h => hk h.symm), ih hes,
          beq_false_of_ne hk]

/-- What is drawn from the entries of a table, if only those of one key give something. -/
theorem flatMap_entries {β : Type*} (t : Keyed α) {k : String} {f : String × α → List β}
    (h : ∀ e ∈ t.entries, e.1 ≠ k → f e = []) :
    t.entries.flatMap f = (t.get? k).toList.flatMap fun v => f (k, v) := by
  have hfiltered : ∀ es : List (String × α), (∀ e ∈ es, e.1 ≠ k → f e = []) →
      es.flatMap f = ((es.filter (·.1 = k)).map (·.2)).flatMap fun v => f (k, v) := by
    intro es hes
    induction es with
    | nil => rfl
    | cons e es ih =>
        obtain ⟨he, hes⟩ := List.forall_mem_cons.mp hes
        by_cases hk : e.1 = k
        · subst hk
          rw [List.filter_cons_of_pos (by simp), List.map_cons, List.flatMap_cons,
            List.flatMap_cons, ih hes]
        · rw [List.filter_cons_of_neg (by simpa using hk), List.flatMap_cons, he hk, ih hes,
            List.nil_append]
  rw [hfiltered t.entries h, filter_entries]

/-- A table has each key once. -/
theorem keys_nodup (t : Keyed α) : (t.entries.map (·.1)).Nodup := by
  refine List.pairwise_map.mpr (t.ordered.imp ?_)
  intro a b hlt he
  rw [he] at hlt
  exact String.lt_irrefl _ hlt

/-- No entry stands in a table twice. -/
theorem entries_nodup (t : Keyed α) : t.entries.Nodup :=
  t.keys_nodup.of_map

theorem ext_entries {t t' : Keyed α} (h : t.entries = t'.entries) : t = t' := by
  cases t
  cases t'
  cases h
  rfl

/-- **Entries that are looked up alike stand in the same order,** because that is the order of their
keys. -/
theorem filter_entries_congr {t t' : Keyed α} {q : String × α → Bool}
    (h : ∀ k v, q (k, v) = true → (t.get? k = some v ↔ t'.get? k = some v)) :
    t.entries.filter q = t'.entries.filter q := by
  have hperm : (t.entries.filter q).Perm (t'.entries.filter q) := by
    refine (List.perm_ext_iff_of_nodup ((entries_nodup t).filter _)
      ((entries_nodup t').filter _)).mpr ?_
    rintro ⟨k, v⟩
    rw [List.mem_filter, List.mem_filter, mem_entries_iff, mem_entries_iff]
    exact and_congr_left (h k v)
  have hlt : ∀ a b : String × α, a.1 < b.1 → ¬ b.1 < a.1 :=
    fun a b hab hba => String.lt_irrefl _ (String.lt_trans hab hba)
  refine hperm.eq_of_pairwise ?_ (t.ordered.filter _) (t'.ordered.filter _)
  intro a b _ _ hab hba
  exact absurd hba (hlt a b hab)

/-- **A new key adds its entry** and moves no other. -/
theorem entries_insert_perm {t : Keyed α} {k : String} (h : t.get? k = none) (v : α) :
    (t.insert k v).entries.Perm ((k, v) :: t.entries) := by
  have hnew : (k, v) ∉ t.entries := by
    intro hm
    rw [mem_entries_iff, h] at hm
    exact nomatch hm
  refine (List.perm_ext_iff_of_nodup (entries_nodup _)
    (List.nodup_cons.mpr ⟨hnew, entries_nodup t⟩)).mpr ?_
  rintro ⟨k', v'⟩
  rw [mem_entries_iff, get?_insert, List.mem_cons, mem_entries_iff, Prod.mk.injEq]
  by_cases hk : k' = k
  · rw [if_pos hk, hk, h]
    simp [eq_comm]
  · simp [hk]

/-- The keys ascend strictly. -/
theorem keys_ascending (t : Keyed α) : t.keys.Pairwise (· < ·) := by
  rw [keys, List.pairwise_map]
  exact t.ordered

/-- The keys are those with a value. -/
theorem mem_keys_iff {t : Keyed α} {k : String} : k ∈ t.keys ↔ ∃ v, t.get? k = some v := by
  constructor
  · intro h
    obtain ⟨⟨_, v⟩, hm, rfl⟩ := List.mem_map.mp h
    exact ⟨v, mem_entries_iff.mp hm⟩
  · rintro ⟨v, h⟩
    exact List.mem_map.mpr ⟨(k, v), mem_entries_iff.mpr h, rfl⟩

theorem not_mem_keys_iff {t : Keyed α} {k : String} : k ∉ t.keys ↔ t.get? k = none := by
  rw [mem_keys_iff, ← Option.isSome_iff_exists, Option.not_isSome_iff_eq_none]

/-- Inserting adds its key and no other. -/
theorem mem_keys_insert {t : Keyed α} {k k' : String} {v : α} :
    k' ∈ (t.insert k v).keys ↔ k' = k ∨ k' ∈ t.keys := by
  rw [mem_keys_iff, mem_keys_iff, get?_insert]
  by_cases h : k' = k
  · simp [h]
  · simp [h]

/-- **The keys of a collected list** are those of its entries. -/
theorem mem_keys_ofList {es : List (String × α)} {k : String} :
    k ∈ (ofList es).keys ↔ k ∈ es.map (·.1) := by
  have key : ∀ (es : List (String × α)) (t : Keyed α),
      k ∈ (es.foldl (fun t e => t.insert e.1 e.2) t).keys ↔ k ∈ t.keys ∨ k ∈ es.map (·.1) := by
    intro es
    induction es with
    | nil => simp
    | cons e es ih =>
        intro t
        rw [List.foldl_cons, ih, mem_keys_insert, List.map_cons, List.mem_cons]
        constructor
        · rintro ((h | h) | h)
          · exact .inr (.inl h)
          · exact .inl h
          · exact .inr (.inr h)
        · rintro (h | h | h)
          · exact .inl (.inr h)
          · exact .inl (.inl h)
          · exact .inr h
  rw [ofList, key]
  simp [empty, keys]

/-! ## Look-up in a collected list -/

/-- One more entry at the end counts before all others of its key. -/
theorem ofList_concat (es : List (String × α)) (e : String × α) :
    ofList (es ++ [e]) = (ofList es).insert e.1 e.2 := by
  rw [ofList, List.foldl_append]
  rfl

/-- What is looked up in a collected list is an entry of it. -/
theorem mem_of_get?_ofList {es : List (String × α)} {k : String} {v : α}
    (h : (ofList es).get? k = some v) : (k, v) ∈ es := by
  induction es using List.reverseRecOn with
  | nil => exact nomatch h
  | append_singleton es e ih =>
      rw [ofList_concat, get?_insert] at h
      split at h
      · rename_i hk
        obtain rfl := Option.some.inj h
        rw [hk]
        exact List.mem_append_right _ (List.mem_singleton_self _)
      · exact List.mem_append_left _ (ih h)

/-- **An entry of a collected list is looked up** if no other of its key has another value. -/
theorem get?_ofList {es : List (String × α)} {k : String} {v : α} (hm : (k, v) ∈ es)
    (hone : ∀ v', (k, v') ∈ es → v' = v) : (ofList es).get? k = some v := by
  obtain ⟨v', hv'⟩ := mem_keys_iff.mp
    (mem_keys_ofList.mpr (List.mem_map.mpr ⟨(k, v), hm, rfl⟩))
  rw [hv', hone v' (mem_of_get?_ofList hv')]

/-- A list whose keys are distinct is collected as it is. -/
theorem get?_ofList_iff {es : List (String × α)} (hn : (es.map (·.1)).Nodup) {k : String} {v : α} :
    (ofList es).get? k = some v ↔ (k, v) ∈ es := by
  refine ⟨mem_of_get?_ofList, fun hm => get?_ofList hm ?_⟩
  intro v' hm'
  exact congrArg Prod.snd (List.inj_on_of_nodup_map hn hm' hm rfl)

/-- **A list whose keys are distinct is only put into another order.** -/
theorem entries_ofList_perm {es : List (String × α)} (hn : (es.map (·.1)).Nodup) :
    (ofList es).entries.Perm es := by
  refine (List.perm_ext_iff_of_nodup (entries_nodup _) hn.of_map).mpr ?_
  rintro ⟨k, v⟩
  rw [mem_entries_iff, get?_ofList_iff hn]

/-- Lists with the same entries under distinct keys are collected in the same table. -/
theorem ofList_eq_of_perm {es es' : List (String × α)} (h : es.Perm es')
    (hn : (es.map (·.1)).Nodup) : ofList es = ofList es' := by
  have hn' := (h.map _).nodup_iff.mp hn
  have heq : (ofList es).entries.filter (fun _ => true)
      = (ofList es').entries.filter (fun _ => true) := by
    refine filter_entries_congr fun k v _ => ?_
    rw [get?_ofList_iff hn, get?_ofList_iff hn', h.mem_iff]
  rw [List.filter_true, List.filter_true] at heq
  exact ext_entries heq

end Telemetry.Keyed
