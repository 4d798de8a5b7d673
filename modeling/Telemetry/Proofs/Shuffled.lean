import Mathlib.Data.List.Perm.Basic
import Telemetry.Proofs.Keyed
import Telemetry.Proofs.SectionFile

/-!
# Lists in another order

Two lists are `Shuffled` over a relation if their members are in it one to one, in whatever order
they stand. What a reader makes of the members of shuffled lists is shuffled too, and the reader
fails for both lists or for none (**`Shuffled.mapM`**). Nothing of the order is left where entries
with distinct keys are looked up (**`Shuffled.lookup`**).
-/

namespace Telemetry

open SectionFile (mapM_eq_some)

variable {α β γ δ : Type} {R : α → α → Prop} {S : β → β → Prop}

/-! ## Results in a relation -/

theorem rel_refl (h : ∀ a, R a a) (x : Option α) : Option.Rel R x x := by
  cases x with
  | none => exact .none
  | some a => exact .some (h a)

theorem rel_of_eq {x x' : Option α} (h : x = x') : Option.Rel Eq x x' :=
  h ▸ rel_refl (fun _ => rfl) x

theorem rel_imp {R' : α → α → Prop} {x x' : Option α} (h : Option.Rel R x x')
    (hR : ∀ a a', R a a' → R' a a') : Option.Rel R' x x' := by
  cases h with
  | some h => exact .some (hR _ _ h)
  | none => exact .none

/-- What holds of a result may go into the relation. -/
theorem rel_and_left {P : α → Prop} {x x' : Option α} (h : Option.Rel R x x')
    (hP : ∀ a, x = some a → P a) : Option.Rel (fun a a' => P a ∧ R a a') x x' := by
  cases h with
  | some h => exact .some ⟨hP _ rfl, h⟩
  | none => exact .none

theorem rel_comp {Q : α → α → Prop} {x y z : Option α} (h : Option.Rel R x y)
    (h' : Option.Rel Q y z) : Option.Rel (fun a c => ∃ b, R a b ∧ Q b c) x z := by
  cases h with
  | some h =>
      cases h' with
      | some h' => exact .some ⟨_, h, h'⟩
  | none =>
      cases h' with
      | none => exact .none

theorem rel_bind {x x' : Option α} {f f' : α → Option β} (h : Option.Rel R x x')
    (hf : ∀ a a', R a a' → Option.Rel S (f a) (f' a')) : Option.Rel S (x >>= f) (x' >>= f') := by
  cases h with
  | some h => exact hf _ _ h
  | none => exact .none

/-- What is made of related results, or of none. -/
theorem rel_elim {x x' : Option α} {f : α → Option β} {b : β} (h : Option.Rel R x x')
    (hf : ∀ a a', R a a' → Option.Rel S (f a) (f a')) (hb : S b b) :
    Option.Rel S (x.elim (some b) f) (x'.elim (some b) f) := by
  cases h with
  | some h => exact hf _ _ h
  | none => exact .some hb

theorem rel_map {x x' : Option α} {f : α → β} (h : Option.Rel R x x')
    (hf : ∀ a a', R a a' → S (f a) (f a')) : Option.Rel S (x.map f) (x'.map f) := by
  cases h with
  | some h => exact .some (hf _ _ h)
  | none => exact .none

theorem eq_of_rel {x x' : Option α} (h : Option.Rel Eq x x') : x = x' := by
  cases h with
  | some h => exact congrArg some h
  | none => rfl

/-- What is made of related results is the same if it does not tell them apart. -/
theorem bind_eq_of_rel {x x' : Option α} {f f' : α → Option β} (h : Option.Rel R x x')
    (hf : ∀ a a', R a a' → f a = f' a') : x >>= f = x' >>= f' := by
  cases h with
  | some h => exact hf _ _ h
  | none => rfl

theorem rel_mapM {f : α → Option β} {as as' : List α}
    (h : List.Forall₂ (fun a a' => Option.Rel S (f a) (f a')) as as') :
    Option.Rel (List.Forall₂ S) (as.mapM f) (as'.mapM f) := by
  induction h with
  | nil => exact .some .nil
  | cons hfirst _ ih =>
      rw [List.mapM_cons, List.mapM_cons]
      refine rel_bind hfirst fun b b' hb => ?_
      exact rel_bind ih fun bs bs' hbs => .some (.cons hb hbs)

theorem mapM_eq_of_forall₂ {f : α → Option β} {as as' : List α}
    (h : List.Forall₂ (fun a a' => f a = f a') as as') : as.mapM f = as'.mapM f := by
  induction h with
  | nil => rfl
  | cons hfirst _ ih => rw [List.mapM_cons, List.mapM_cons, hfirst, ih]

theorem rel_mapM_perm {f : α → Option β} {as as' : List α} (h : as.Perm as') :
    Option.Rel List.Perm (as.mapM f) (as'.mapM f) := by
  induction h with
  | nil => exact .some .nil
  | cons a _ ih =>
      rw [List.mapM_cons, List.mapM_cons]
      refine rel_bind (rel_refl (fun _ => rfl) (f a)) fun b b' hb => ?_
      exact rel_bind ih fun bs bs' hbs => .some (hb ▸ hbs.cons b)
  | swap a a' as =>
      simp only [List.mapM_cons]
      cases f a <;> cases f a' <;> cases as.mapM f <;>
        first | exact .none | exact .some (.swap _ _ _)
  | trans _ _ ih ih' => exact rel_imp (rel_comp ih ih') fun _ _ ⟨_, h, h'⟩ => h.trans h'

/-! ## Shuffled lists -/

/-- Lists whose members are in a relation one to one, in whatever order they stand. -/
def Shuffled (R : α → α → Prop) (as as' : List α) : Prop :=
  ∃ moved, as.Perm moved ∧ List.Forall₂ R moved as'

namespace Shuffled

variable {as as' : List α}

/-- What the relation leaves as it is only stands in another order. -/
theorem map_perm {f : α → β} (h : Shuffled R as as') (hf : ∀ a a', R a a' → f a = f a') :
    (as.map f).Perm (as'.map f) := by
  obtain ⟨moved, hperm, hrel⟩ := h
  have heq : moved.map f = as'.map f := by
    rw [← List.forall₂_eq_eq_eq, List.forall₂_map_left_iff, List.forall₂_map_right_iff]
    exact hrel.imp hf
  exact heq ▸ hperm.map f

theorem filter {p : α → Bool} (h : Shuffled R as as') (hp : ∀ a a', R a a' → p a = p a') :
    Shuffled R (as.filter p) (as'.filter p) := by
  obtain ⟨moved, hperm, hrel⟩ := h
  refine ⟨moved.filter p, hperm.filter p, List.rel_filter ?_ hrel⟩
  intro a a' ha
  show p a = true ↔ p a' = true
  rw [hp a a' ha]

/-- Membership in the first list may go into the relation. -/
theorem and_mem (h : Shuffled R as as') : Shuffled (fun a a' => a ∈ as ∧ R a a') as as' := by
  obtain ⟨moved, hperm, hrel⟩ := h
  exact ⟨moved, hperm, (List.forall₂_and_left moved as').mpr
    ⟨fun a ha => hperm.mem_iff.mpr ha, hrel⟩⟩

theorem imp {R' : α → α → Prop} (h : Shuffled R as as') (hR : ∀ a a', R a a' → R' a a') :
    Shuffled R' as as' := by
  obtain ⟨moved, hperm, hrel⟩ := h
  exact ⟨moved, hperm, hrel.imp hR⟩

/-- **What is read of the members of shuffled lists is shuffled.** -/
theorem mapM {f : α → Option β} (h : Shuffled R as as')
    (hf : ∀ a a', R a a' → Option.Rel S (f a) (f a')) :
    Option.Rel (Shuffled S) (as.mapM f) (as'.mapM f) := by
  obtain ⟨moved, hperm, hrel⟩ := h
  exact rel_comp (rel_mapM_perm hperm) (rel_mapM (hrel.imp hf))

/-- The member of a list that has no other. -/
def only? : List α → Option α
  | [a] => some a
  | _ => none

theorem only (h : Shuffled R as as') : Option.Rel R (only? as) (only? as') := by
  obtain ⟨moved, hperm, hrel⟩ := h
  cases hrel with
  | nil =>
      rw [hperm.eq_nil]
      exact .none
  | cons hfirst hrest =>
      cases hrest with
      | nil =>
          rw [List.perm_singleton.mp hperm]
          exact .some hfirst
      | cons =>
          -- a list with several members has none that is the only one
          have hlength := hperm.length_eq
          match as, hlength with
          | _ :: _ :: _, _ => exact .none

/-! ## Entries that are read one by one -/

/-- Reads an entry: its key by one reader, its value by another. -/
def pair? (key : α → Option γ) (value : β → Option δ) (e : α × β) : Option (γ × δ) := do
  return (← key e.1, ← value e.2)

theorem pair?_eq_some {key : α → Option γ} {value : β → Option δ} {e : α × β} {e' : γ × δ} :
    pair? key value e = some e' ↔ key e.1 = some e'.1 ∧ value e.2 = some e'.2 := by
  rw [pair?]
  cases key e.1 with
  | none => simp
  | some k =>
      cases value e.2 with
      | none => simp
      | some v => simp [Prod.ext_iff]

theorem mapM_pair? {P : γ → γ → Prop} {Q : δ → δ → Prop} {key : α → Option γ}
    {value : β → Option δ} {es es' : List (α × β)} (h : Shuffled (Prod.RProd R S) es es')
    (hkey : ∀ k k', R k k' → Option.Rel P (key k) (key k'))
    (hvalue : ∀ v v', S v v' → Option.Rel Q (value v) (value v')) :
    Option.Rel (Shuffled (Prod.RProd P Q)) (es.mapM (pair? key value))
      (es'.mapM (pair? key value)) := by
  refine h.mapM ?_
  rintro _ _ ⟨hk, hv⟩
  refine rel_bind (hkey _ _ hk) fun k k' hk => ?_
  exact rel_bind (hvalue _ _ hv) fun v v' hv => .some ⟨hk, hv⟩

/-- Entries that are read from entries with distinct keys have distinct keys, if no key gets a text
that it had not before. -/
theorem nodup_of_mapM_pair? {key : α → Option γ} {value : β → Option δ} {text : α → Option String}
    {text' : γ → Option String} {es : List (α × β)} {es' : List (γ × δ)}
    (h : es.mapM (pair? key value) = some es')
    (htext : ∀ k k' s, key k = some k' → text' k' = some s → text k = some s)
    (hn : (es.filterMap (text ·.1)).Nodup) : (es'.filterMap (text' ·.1)).Nodup := by
  have hsub : (es'.filterMap (text' ·.1)).Sublist (es.filterMap (text ·.1)) := by
    have hall := mapM_eq_some.mp h
    clear h hn
    induction hall with
    | nil => exact .refl _
    | @cons e e' es es' he _ ih =>
        cases hs : text' e'.1 with
        | none =>
            rw [List.filterMap_cons, hs]
            exact ih.trans ((List.sublist_cons_self e es).filterMap _)
        | some s =>
            have hs' := htext _ _ s (pair?_eq_some.mp he).1 hs
            rw [List.filterMap_cons, hs, List.filterMap_cons, hs']
            exact ih.cons_cons s
  exact hn.sublist hsub

/-! ## Entries with distinct keys -/

theorem keys_perm {es es' : List (String × α)} (h : Shuffled (Prod.RProd Eq R) es es') :
    (es.map (·.1)).Perm (es'.map (·.1)) :=
  h.map_perm fun _ _ ⟨hk, _⟩ => hk

theorem lookup_eq_of_perm {es es' : List (String × α)} (h : es.Perm es')
    (hn : (es.map (·.1)).Nodup) (k : String) : es.lookup k = es'.lookup k := by
  induction h with
  | nil => rfl
  | cons e _ ih => rw [List.lookup_cons, List.lookup_cons, ih (List.nodup_cons.mp hn).2]
  | swap e e' es =>
      have hne : e.1 ≠ e'.1 := by
        intro he
        refine (List.nodup_cons.mp hn).1 ?_
        rw [List.map_cons, he]
        exact List.mem_cons_self
      repeat rw [List.lookup_cons]
      by_cases hk : k = e.1
      · rw [hk, beq_false_of_ne hne, BEq.rfl]
      · rw [beq_false_of_ne hk]
  | trans h _ ih ih' => rw [ih hn, ih' ((h.map _).nodup_iff.mp hn)]

theorem rel_lookup {es es' : List (String × α)} (h : List.Forall₂ (Prod.RProd Eq R) es es')
    (k : String) : Option.Rel R (es.lookup k) (es'.lookup k) := by
  induction h with
  | nil => exact .none
  | cons hfirst _ ih =>
      obtain ⟨rfl, hvalue⟩ := hfirst
      rw [List.lookup_cons, List.lookup_cons]
      split
      · exact .some hvalue
      · exact ih

/-- **Looking up does not depend on the order.** -/
theorem lookup {es es' : List (String × α)} (h : Shuffled (Prod.RProd Eq R) es es')
    (hn : (es.map (·.1)).Nodup) (k : String) : Option.Rel R (es.lookup k) (es'.lookup k) := by
  obtain ⟨moved, hperm, hrel⟩ := h
  rw [lookup_eq_of_perm hperm hn k]
  exact rel_lookup hrel k

end Shuffled

end Telemetry
