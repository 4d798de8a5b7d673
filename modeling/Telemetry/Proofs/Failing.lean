import Mathlib.Data.List.Forall2

/-!
# Computations that can fail

Checking, resolving and compiling are sequences of steps of which the first that fails decides. This
file takes such sequences apart, once for every way in which the library strings steps together:

* **`bind_eq_ok`**, **`bind_eq_error`** — one step after another.
* **`mapM_eq_ok`**, **`mapM_eq_error`** — one step for each member of a list, with all results.
* **`forM_eq_ok`**, **`forM_eq_error`** — one check for each member of a list.
* **`FailsOnly`** — all failures have some property, which passes through each of these ways.
* **`Demands`** — what a computation demands, one demand after another, which is composed in each of
  these ways too: the first demand that is not met decides.

The failing cases are exact: everything before the member that failed has succeeded.
-/

namespace Telemetry.Failing

universe u

variable {ε : Type u} {α β : Type}

/-! ## Two steps -/

/-- Two steps succeed if both do. -/
theorem bind_eq_ok {x : Except ε α} {f : α → Except ε β} {b : β} :
    (x >>= f) = .ok b ↔ ∃ a, x = .ok a ∧ f a = .ok b := by
  cases x with
  | error e =>
      constructor
      · intro h
        exact nomatch h
      · rintro ⟨a, h, -⟩
        exact nomatch h
  | ok a =>
      constructor
      · intro h
        exact ⟨a, rfl, h⟩
      · rintro ⟨a', h, hb⟩
        obtain rfl : a = a' := Except.ok.inj h
        exact hb

/-- Two steps fail if the first does, or the second after it. -/
theorem bind_eq_error {x : Except ε α} {f : α → Except ε β} {e : ε} :
    (x >>= f) = .error e ↔ x = .error e ∨ ∃ a, x = .ok a ∧ f a = .error e := by
  cases x with
  | error e' =>
      constructor
      · intro h
        exact .inl (congrArg Except.error (Except.error.inj h))
      · rintro (h | ⟨a, h, -⟩)
        · exact congrArg Except.error (Except.error.inj h)
        · exact nomatch h
  | ok a =>
      constructor
      · intro h
        exact .inr ⟨a, rfl, h⟩
      · rintro (h | ⟨a', h, he⟩)
        · exact nomatch h
        · obtain rfl : a = a' := Except.ok.inj h
          exact he

/-- What is made of a result comes from a result. -/
theorem map_eq_ok {x : Except ε α} {f : α → β} {b : β} :
    x.map f = .ok b ↔ ∃ a, x = .ok a ∧ f a = b := by
  cases x with
  | error e =>
      constructor
      · intro h
        exact nomatch h
      · rintro ⟨a, h, -⟩
        exact nomatch h
  | ok a =>
      constructor
      · intro h
        exact ⟨a, rfl, Except.ok.inj h⟩
      · rintro ⟨a', h, rfl⟩
        obtain rfl : a = a' := Except.ok.inj h
        rfl

/-- What a computation evaluates to, up to a view, is the view of its result. -/
theorem eq_of_map_eq_ok {x : Except ε α} {f : α → β} {a : α} {b : β} (hx : x = .ok a)
    (h : x.map f = .ok b) : f a = b := by
  obtain ⟨a', hx', hf⟩ := map_eq_ok.mp h
  obtain rfl : a = a' := Except.ok.inj (hx.symm.trans hx')
  exact hf

/-- What is decided of a computation's result holds of it. -/
theorem of_map_decide {x : Except ε α} {P : α → Prop} [DecidablePred P] {a : α} (hx : x = .ok a)
    (h : x.map (fun a => decide (P a)) = .ok true) : P a :=
  of_decide_eq_true (eq_of_map_eq_ok (f := fun a => decide (P a)) hx h)

/-- A check and what comes behind it fail if the check does, or if it is passed and the rest does. -/
theorem check_bind_eq_error {x : Except ε Unit} {f : Unit → Except ε α} {e : ε} :
    (x >>= f) = .error e ↔ x = .error e ∨ x = .ok () ∧ f () = .error e := by
  rw [bind_eq_error]
  exact or_congr_right ⟨fun ⟨_, hx, hf⟩ => ⟨hx, hf⟩, fun ⟨hx, hf⟩ => ⟨(), hx, hf⟩⟩

/-- Another wording of the failure does not change what succeeds. -/
theorem mapError_eq_ok {ε' : Type u} {f : ε → ε'} {x : Except ε α} {a : α} :
    x.mapError f = .ok a ↔ x = .ok a := by
  cases x with
  | error e =>
      constructor <;> intro h <;> exact nomatch h
  | ok b =>
      constructor <;> intro h <;> exact congrArg Except.ok (Except.ok.inj h)

/-- A failure is worded in the other way. -/
theorem mapError_eq_error {ε' : Type u} {f : ε → ε'} {x : Except ε α} {e : ε'} :
    x.mapError f = .error e ↔ ∃ e', x = .error e' ∧ f e' = e := by
  cases x with
  | error e' =>
      constructor
      · intro h
        exact ⟨e', rfl, Except.error.inj h⟩
      · rintro ⟨e'', h, rfl⟩
        obtain rfl : e' = e'' := Except.error.inj h
        rfl
  | ok b =>
      constructor
      · intro h
        exact nomatch h
      · rintro ⟨e', h, -⟩
        exact nomatch h

/-- Under an injective function, a failure comes from one failure only. -/
theorem mapError_eq_error_of_injective {ε' : Type u} {f : ε → ε'} (hf : Function.Injective f)
    {x : Except ε α} {e : ε} (h : x.mapError f = .error (f e)) : x = .error e := by
  obtain ⟨e', hx, he⟩ := mapError_eq_error.mp h
  rw [hx, hf he]

/-- The failure of a computation, if it fails. -/
def failure? : Except ε α → Option ε
  | .ok _ => none
  | .error e => some e

theorem eq_error_of_failure? {x : Except ε α} {e : ε} (h : failure? x = some e) : x = .error e := by
  cases x with
  | ok a => exact nomatch h
  | error e' => exact congrArg Except.error (Option.some.inj h)

theorem eq_ok_of_toOption {x : Except ε α} {a : α} (h : x.toOption = some a) : x = .ok a := by
  cases x with
  | ok a' => exact congrArg Except.ok (Option.some.inj h)
  | error e => exact nomatch h

/-- A computation that does not fail has a result. -/
theorem exists_of_isOk {x : Except ε α} (h : x.isOk = true) : ∃ a, x = .ok a := by
  cases x with
  | ok a => exact ⟨a, rfl⟩
  | error e => exact nomatch h

/-! ## One step for each member -/

/-- All steps succeed, each with its own result. -/
theorem mapM_eq_ok {f : α → Except ε β} {as : List α} {bs : List β} :
    as.mapM f = .ok bs ↔ List.Forall₂ (fun a b => f a = .ok b) as bs := by
  induction as generalizing bs with
  | nil =>
      rw [List.mapM_nil, List.forall₂_nil_left_iff]
      exact ⟨fun h => (Except.ok.inj h).symm, fun h => congrArg Except.ok h.symm⟩
  | cons a as ih =>
      rw [List.mapM_cons, bind_eq_ok]
      constructor
      · rintro ⟨b, hb, h⟩
        obtain ⟨bs', hbs, h'⟩ := bind_eq_ok.mp h
        obtain rfl : b :: bs' = bs := Except.ok.inj h'
        exact .cons hb (ih.mp hbs)
      · intro h
        cases h with
        | cons hb hbs => exact ⟨_, hb, bind_eq_ok.mpr ⟨_, ih.mpr hbs, rfl⟩⟩

/-- Steps that are the same at each member have the same end, also where they fail. -/
theorem mapM_congr {f g : α → Except ε β} {as : List α} (h : ∀ a ∈ as, f a = g a) :
    as.mapM f = as.mapM g := by
  induction as with
  | nil => rfl
  | cons a as ih =>
      obtain ⟨ha, has⟩ := List.forall_mem_cons.mp h
      rw [List.mapM_cons, List.mapM_cons, ha, ih has]

/-- What is related member by member leaves no member of the second list alone. -/
theorem exists_of_mem_forall₂ {R : α → β → Prop} {as : List α} {bs : List β} {b : β}
    (h : List.Forall₂ R as bs) (hb : b ∈ bs) : ∃ a ∈ as, R a b := by
  induction h with
  | nil => exact nomatch hb
  | cons ha _ ih =>
      rcases List.mem_cons.mp hb with rfl | hb
      · exact ⟨_, List.mem_cons_self, ha⟩
      · obtain ⟨a, hm, ha⟩ := ih hb
        exact ⟨a, List.mem_cons_of_mem _ hm, ha⟩

/-- Where one list is cut at a member, the other is cut at its partner. -/
theorem exists_of_forall₂_append_cons {R : α → β → Prop} {as : List α} {before after : List β} {b : β}
    (h : List.Forall₂ R as (before ++ b :: after)) :
    ∃ before' a after', as = before' ++ a :: after' ∧ List.Forall₂ R before' before ∧ R a b := by
  induction before generalizing as with
  | nil =>
      cases h with
      | cons hb _ => exact ⟨[], _, _, rfl, .nil, hb⟩
  | cons b' before ih =>
      cases h with
      | cons hb' h =>
          obtain ⟨before', a, after', rfl, hbefore, hb⟩ := ih h
          exact ⟨_ :: before', a, after', rfl, .cons hb' hbefore, hb⟩

/-- Where each member has a partner, the partners can be listed. -/
theorem exists_forall₂ {R : α → β → Prop} {as : List α} (h : ∀ a ∈ as, ∃ b, R a b) :
    ∃ bs, List.Forall₂ R as bs := by
  induction as with
  | nil => exact ⟨[], .nil⟩
  | cons a as ih =>
      obtain ⟨⟨b, hb⟩, has⟩ := List.forall_mem_cons.mp h
      obtain ⟨bs, hbs⟩ := ih has
      exact ⟨b :: bs, .cons hb hbs⟩

/-- Each result of successful steps is that of some member. -/
theorem exists_of_mem_mapM {f : α → Except ε β} {as : List α} {bs : List β} {b : β}
    (h : as.mapM f = .ok bs) (hb : b ∈ bs) : ∃ a ∈ as, f a = .ok b :=
  exists_of_mem_forall₂ (mapM_eq_ok.mp h) hb

/-- The first step that fails decides. -/
theorem mapM_eq_error {f : α → Except ε β} {as : List α} {e : ε} :
    as.mapM f = .error e ↔
      ∃ before a after, as = before ++ a :: after ∧ (∀ x ∈ before, ∃ b, f x = .ok b) ∧
        f a = .error e := by
  induction as with
  | nil =>
      constructor
      · intro h
        exact nomatch h
      · rintro ⟨before, a, after, h, -⟩
        exact absurd h (by simp)
  | cons a as ih =>
      rw [List.mapM_cons, bind_eq_error]
      constructor
      · rintro (h | ⟨b, hb, h⟩)
        · exact ⟨[], a, as, rfl, by simp, h⟩
        · obtain h' | ⟨bs, -, h'⟩ := bind_eq_error.mp h
          · obtain ⟨before, a', after, rfl, hok, he⟩ := ih.mp h'
            refine ⟨a :: before, a', after, rfl, ?_, he⟩
            intro x hx
            rcases List.mem_cons.mp hx with rfl | hx
            · exact ⟨b, hb⟩
            · exact hok x hx
          · exact nomatch h'
      · rintro ⟨before, a', after, h, hok, he⟩
        cases before with
        | nil =>
            obtain ⟨rfl, rfl⟩ := List.cons.inj h
            exact .inl he
        | cons x before =>
            obtain ⟨rfl, rfl⟩ := List.cons.inj h
            obtain ⟨b, hb⟩ := hok a List.mem_cons_self
            refine .inr ⟨b, hb, bind_eq_error.mpr (.inl (ih.mpr ?_))⟩
            exact ⟨before, a', after, rfl, fun y hy => hok y (List.mem_cons_of_mem _ hy), he⟩

/-- All checks succeed. -/
theorem forM_eq_ok {f : α → Except ε Unit} {as : List α} :
    as.forM f = .ok () ↔ ∀ a ∈ as, f a = .ok () := by
  induction as with
  | nil =>
      constructor
      · intro _ a ha
        exact nomatch ha
      · intro _
        rfl
  | cons a as ih =>
      rw [show (a :: as).forM f = f a >>= fun _ => as.forM f from rfl, bind_eq_ok, List.forall_mem_cons,
        ih]
      constructor
      · rintro ⟨_, ha, has⟩
        exact ⟨ha, has⟩
      · rintro ⟨ha, has⟩
        exact ⟨(), ha, has⟩

/-- Checks that are the same at each member have the same end. -/
theorem forM_congr {f g : α → Except ε Unit} {as : List α} (h : ∀ a ∈ as, f a = g a) :
    as.forM f = as.forM g := by
  induction as with
  | nil => rfl
  | cons a as ih =>
      obtain ⟨ha, has⟩ := List.forall_mem_cons.mp h
      show (f a >>= fun _ => as.forM f) = (g a >>= fun _ => as.forM g)
      rw [ha, ih has]

/-- The first check that fails decides. -/
theorem forM_eq_error {f : α → Except ε Unit} {as : List α} {e : ε} :
    as.forM f = .error e ↔
      ∃ before a after, as = before ++ a :: after ∧ (∀ x ∈ before, f x = .ok ()) ∧
        f a = .error e := by
  induction as with
  | nil =>
      constructor
      · intro h
        exact nomatch h
      · rintro ⟨before, a, after, h, -⟩
        exact absurd h (by simp)
  | cons a as ih =>
      rw [show (a :: as).forM f = f a >>= fun _ => as.forM f from rfl, bind_eq_error]
      constructor
      · rintro (h | ⟨_, ha, h⟩)
        · exact ⟨[], a, as, rfl, by simp, h⟩
        · obtain ⟨before, a', after, rfl, hok, he⟩ := ih.mp h
          exact ⟨a :: before, a', after, rfl, List.forall_mem_cons.mpr ⟨ha, hok⟩, he⟩
      · rintro ⟨before, a', after, h, hok, he⟩
        cases before with
        | nil =>
            obtain ⟨rfl, rfl⟩ := List.cons.inj h
            exact .inl he
        | cons x before =>
            obtain ⟨rfl, rfl⟩ := List.cons.inj h
            obtain ⟨ha, hrest⟩ := List.forall_mem_cons.mp hok
            exact .inr ⟨(), ha, ih.mpr ⟨before, a', after, rfl, hrest, he⟩⟩

/-- Where a state goes from one member to the next, the first step that fails decides. -/
theorem foldlM_eq_error {f : β → α → Except ε β} {as : List α} {b : β} {e : ε} :
    as.foldlM f b = .error e ↔
      ∃ before a after b', as = before ++ a :: after ∧ before.foldlM f b = .ok b' ∧
        f b' a = .error e := by
  induction as generalizing b with
  | nil =>
      constructor
      · intro h
        exact nomatch h
      · rintro ⟨before, a, after, b', h, -⟩
        exact absurd h (by simp)
  | cons a as ih =>
      rw [List.foldlM_cons, bind_eq_error]
      constructor
      · rintro (h | ⟨b₁, hb, h⟩)
        · exact ⟨[], a, as, b, rfl, rfl, h⟩
        · obtain ⟨before, a', after, b', rfl, hok, he⟩ := ih.mp h
          exact ⟨a :: before, a', after, b', rfl, bind_eq_ok.mpr ⟨b₁, hb, hok⟩, he⟩
      · rintro ⟨before, a', after, b', h, hok, he⟩
        cases before with
        | nil =>
            obtain ⟨rfl, rfl⟩ := List.cons.inj h
            obtain rfl : b = b' := Except.ok.inj hok
            exact .inl he
        | cons x before =>
            obtain ⟨rfl, rfl⟩ := List.cons.inj h
            obtain ⟨b₁, hb, hok⟩ := bind_eq_ok.mp hok
            exact .inr ⟨b₁, hb, ih.mpr ⟨before, a', after, b', rfl, hok, he⟩⟩

/-! ## What all failures have in common -/

/-- Every failure of a computation has a property. -/
def FailsOnly (P : ε → Prop) (x : Except ε α) : Prop :=
  ∀ e, x = .error e → P e

namespace FailsOnly

variable {P : ε → Prop}

/-- A result is no failure. -/
theorem ok (a : α) : FailsOnly P (.ok a) :=
  fun _ h => nomatch h

/-- A failure with the property. -/
theorem error {e : ε} (h : P e) : FailsOnly P (.error e : Except ε α) := by
  intro e' he
  obtain rfl : e = e' := Except.error.inj he
  exact h

/-- Two steps, the second after any result of the first. -/
theorem bind {x : Except ε α} {f : α → Except ε β} (hx : FailsOnly P x)
    (hf : ∀ a, x = .ok a → FailsOnly P (f a)) : FailsOnly P (x >>= f) := by
  intro e h
  rcases bind_eq_error.mp h with h | ⟨a, ha, h⟩
  · exact hx e h
  · exact hf a ha e h

/-- A property of what failures are turned into. -/
theorem mapError {ε' : Type u} {f : ε' → ε} {x : Except ε' α}
    (h : FailsOnly (fun e => P (f e)) x) : FailsOnly P (x.mapError f) := by
  intro e he
  obtain ⟨e', he', rfl⟩ := mapError_eq_error.mp he
  exact h e' he'

/-- A property that follows from another. -/
theorem imp {Q : ε → Prop} {x : Except ε α} (h : FailsOnly P x) (hpq : ∀ e, P e → Q e) :
    FailsOnly Q x :=
  fun e he => hpq e (h e he)

/-- One step for each member. -/
theorem mapM {f : α → Except ε β} {as : List α} (h : ∀ a ∈ as, FailsOnly P (f a)) :
    FailsOnly P (as.mapM f) := by
  intro e he
  obtain ⟨before, a, after, rfl, -, ha⟩ := mapM_eq_error.mp he
  exact h a (List.mem_append_right _ List.mem_cons_self) e ha

/-- One check for each member. -/
theorem forM {f : α → Except ε Unit} {as : List α} (h : ∀ a ∈ as, FailsOnly P (f a)) :
    FailsOnly P (as.forM f) := by
  intro e he
  obtain ⟨before, a, after, rfl, -, ha⟩ := forM_eq_error.mp he
  exact h a (List.mem_append_right _ List.mem_cons_self) e ha

/-- One step for each member, with a state that goes from one to the next. -/
theorem foldlM {f : β → α → Except ε β} {as : List α} (h : ∀ b, ∀ a ∈ as, FailsOnly P (f b a))
    (b : β) : FailsOnly P (as.foldlM f b) := by
  induction as generalizing b with
  | nil => exact ok b
  | cons a as ih =>
      rw [List.foldlM_cons]
      refine bind (h b a List.mem_cons_self) ?_
      intro b' _
      exact ih (fun b'' a' ha' => h b'' a' (List.mem_cons_of_mem _ ha')) b'

end FailsOnly

/-! ## Demands in order -/

/-- A computation makes demands in order: at the first that is not met it fails in the way of that
demand, and if all are met it has a result. -/
def Demands {δ : Type} (failure : δ → ε) (Met : δ → Prop) : List δ → Except ε α → Prop
  | [], x => ∃ a, x = .ok a
  | d :: ds, x => (Met d ∧ Demands failure Met ds x) ∨ (¬ Met d ∧ x = .error (failure d))

namespace Demands

variable {δ : Type} {failure : δ → ε} {Met : δ → Prop} {ds ds' : List δ}

/-- A step that makes one demand. -/
theorem single {d : δ} {x : Except ε α} (hok : Met d → ∃ a, x = .ok a)
    (herror : ¬ Met d → x = .error (failure d)) : Demands failure Met [d] x := by
  by_cases h : Met d
  · exact .inl ⟨h, hok h⟩
  · exact .inr ⟨h, herror h⟩

/-- Two steps make the demands of the first and then those of the second. -/
theorem bind {x : Except ε α} {f : α → Except ε β} (hx : Demands failure Met ds x)
    (hf : ∀ a, x = .ok a → Demands failure Met ds' (f a)) :
    Demands failure Met (ds ++ ds') (x >>= f) := by
  induction ds with
  | nil =>
      obtain ⟨a, rfl⟩ := hx
      exact hf a rfl
  | cons d ds ih =>
      rcases hx with ⟨hd, hx⟩ | ⟨hd, rfl⟩
      · exact .inl ⟨hd, ih hx⟩
      · exact .inr ⟨hd, rfl⟩

/-- A last step that always has a result demands nothing. -/
theorem bind_ok {x : Except ε α} {f : α → Except ε β} (hx : Demands failure Met ds x)
    (hf : ∀ a, ∃ b, f a = .ok b) : Demands failure Met ds (x >>= f) := by
  rw [← List.append_nil ds]
  exact hx.bind fun a _ => hf a

/-- What it means that a demand is met counts for the demands only. -/
theorem congr {Met' : δ → Prop} {x : Except ε α} (h : Demands failure Met ds x)
    (hmet : ∀ d ∈ ds, (Met' d ↔ Met d)) : Demands failure Met' ds x := by
  induction ds with
  | nil => exact h
  | cons d ds ih =>
      obtain ⟨hd, hds⟩ := List.forall_mem_cons.mp hmet
      rcases h with ⟨hm, h⟩ | ⟨hn, h⟩
      · exact .inl ⟨hd.mpr hm, ih h hds⟩
      · exact .inr ⟨fun hm => hn (hd.mp hm), h⟩

/-- One step for each member, each with its own demands. -/
theorem mapM {demands : α → List δ} {f : α → Except ε β} {as : List α}
    (h : ∀ a ∈ as, Demands failure Met (demands a) (f a)) :
    Demands failure Met (as.flatMap demands) (as.mapM f) := by
  induction as with
  | nil => exact ⟨[], rfl⟩
  | cons a as ih =>
      obtain ⟨ha, has⟩ := List.forall_mem_cons.mp h
      rw [List.flatMap_cons, List.mapM_cons]
      refine ha.bind ?_
      intro b _
      exact (ih has).bind_ok fun bs => ⟨b :: bs, rfl⟩

/-- One check for each member, each with its own demands. -/
theorem forM {demands : α → List δ} {f : α → Except ε Unit} {as : List α}
    (h : ∀ a ∈ as, Demands failure Met (demands a) (f a)) :
    Demands failure Met (as.flatMap demands) (as.forM f) := by
  induction as with
  | nil => exact ⟨(), rfl⟩
  | cons a as ih =>
      obtain ⟨ha, has⟩ := List.forall_mem_cons.mp h
      rw [List.flatMap_cons]
      exact ha.bind fun _ _ => ih has

/-- There is a result exactly if all demands are met. -/
theorem exists_ok_iff {x : Except ε α} (h : Demands failure Met ds x) :
    (∃ a, x = .ok a) ↔ ∀ d ∈ ds, Met d := by
  induction ds with
  | nil => exact iff_of_true h (fun d hd => nomatch hd)
  | cons d ds ih =>
      rw [List.forall_mem_cons]
      rcases h with ⟨hd, h⟩ | ⟨hd, rfl⟩
      · rw [ih h]
        exact (and_iff_right hd).symm
      · refine iff_of_false ?_ (fun hall => hd hall.1)
        rintro ⟨a, ha⟩
        exact nomatch ha

/-- The failure is that of the first demand that is not met. -/
theorem eq_error_iff {x : Except ε α} (h : Demands failure Met ds x) {e : ε} :
    x = .error e ↔ ∃ before d after, ds = before ++ d :: after ∧ (∀ d' ∈ before, Met d') ∧
      ¬ Met d ∧ e = failure d := by
  induction ds with
  | nil =>
      obtain ⟨a, rfl⟩ := h
      constructor
      · intro he
        exact nomatch he
      · rintro ⟨before, d, after, hds, -⟩
        exact absurd hds (by simp)
  | cons d ds ih =>
      rcases h with ⟨hd, h⟩ | ⟨hd, rfl⟩
      · rw [ih h]
        constructor
        · rintro ⟨before, d', after, rfl, hbefore, hd', he⟩
          exact ⟨d :: before, d', after, rfl, List.forall_mem_cons.mpr ⟨hd, hbefore⟩, hd', he⟩
        · rintro ⟨before, d', after, hds, hbefore, hd', he⟩
          cases before with
          | nil =>
              obtain ⟨rfl, -⟩ := List.cons.inj hds
              exact absurd hd hd'
          | cons b before =>
              obtain ⟨-, rfl⟩ := List.cons.inj hds
              exact ⟨before, d', after, rfl, (List.forall_mem_cons.mp hbefore).2, hd', he⟩
      · constructor
        · intro he
          exact ⟨[], d, ds, rfl, List.forall_mem_nil _, hd, (Except.error.inj he).symm⟩
        · rintro ⟨before, d', after, hds, hbefore, hd', rfl⟩
          cases before with
          | nil =>
              obtain ⟨rfl, -⟩ := List.cons.inj hds
              rfl
          | cons b before =>
              obtain ⟨rfl, -⟩ := List.cons.inj hds
              exact absurd (hbefore d List.mem_cons_self) hd

end Demands

end Telemetry.Failing
