import Telemetry.Proofs.Simplify

/-!
# Passes over an instance

Expanding and simplifying are passes: each takes an instance and leaves one, so that they can follow
each other in any order and any number of times. This file says that nothing is gained by that.

* **`Plain.expand_eq`** — expanding leaves an instance as it is in which nothing stands for something
  else.
* **`LogReceiver.absorbAll_settled`** — a receiver that has taken over what it can takes nothing more,
  also not from further behind what stopped it.
* **`Settled.simplify_eq`** — so simplifying leaves an instance as it is that has been simplified.
* **`Pass.apply_outcome`**, **`Pass.applyAll_eq`** — one more pass leads from one outcome to another,
  and therefore a sequence of passes has one of three outcomes.
-/

namespace Telemetry

/-! ## Receivers that have taken over what they can -/

/-- **A receiver takes nothing more** from what it has left. It stops at the first processor that it
cannot take, whatever comes behind that one, and this processor is still in front. -/
theorem LogReceiver.absorbAll_settled (r : LogReceiver) (bs : List Binding) :
    (r.absorbAll bs).1.absorbAll (r.absorbAll bs).2 = r.absorbAll bs := by
  induction bs generalizing r with
  | nil => rfl
  | cons b bs ih =>
      cases ha : r.absorb? b.processor with
      | some r' =>
          have hstep : r.absorbAll (b :: bs) = r'.absorbAll bs := by
            rw [absorbAll, ha]
          rw [hstep]
          exact ih r'
      | none =>
          have hstop : r.absorbAll (b :: bs) = (r, b :: bs) := by
            rw [absorbAll, ha]
          rw [hstop]
          exact hstop

namespace LogInstance

variable {i : LogInstance}

/-! ## Instances that a pass leaves as they are -/

/-- The processors that stand for no others are expanded into themselves. -/
theorem Plain.flatMap_expand (h : i.Plain) : i.processors.flatMap Binding.expand = i.processors := by
  have hself : ∀ b ∈ i.processors, b.expand = [b] := by
    intro b hb
    rw [Binding.expand, h.processors b hb]
  rw [List.flatMap_congr hself, List.flatMap_singleton']

/-- **Expanding leaves an instance as it is** in which nothing stands for something else. -/
theorem Plain.expand_eq (h : i.Plain) : i.expand = i := by
  rw [expand, h.receiver, h.flatMap_expand]
  rfl

/-- Nothing stands for something else, and the receiver takes over nothing of what is in front. -/
structure Settled (i : LogInstance) : Prop where
  plain : i.Plain
  absorbed : i.receiver.absorbAll i.processors = (i.receiver, i.processors)

/-- **Simplifying leaves a settled instance as it is.** -/
theorem Settled.simplify_eq (h : i.Settled) : i.simplify = i := by
  rw [simplify, h.plain.expand_eq, h.absorbed]

/-- A simplified instance is settled. -/
theorem simplify_settled (i : LogInstance) : i.simplify.Settled where
  plain := i.simplify_plain
  absorbed := LogReceiver.absorbAll_settled i.expand.receiver i.expand.processors

@[simp] theorem expand_expand (i : LogInstance) : i.expand.expand = i.expand :=
  i.expand_plain.expand_eq

@[simp] theorem expand_simplify (i : LogInstance) : i.simplify.expand = i.simplify :=
  i.simplify_plain.expand_eq

@[simp] theorem simplify_simplify (i : LogInstance) : i.simplify.simplify = i.simplify :=
  i.simplify_settled.simplify_eq

/-- Simplifying expands first, so that an expanded instance is simplified alike. -/
@[simp] theorem simplify_expand (i : LogInstance) : i.expand.simplify = i.simplify := by
  rw [simplify, expand_expand, simplify]

end LogInstance

/-! ## Sequences of passes -/

/-- A pass over an instance. -/
inductive Pass where
  | expand
  | simplify
  deriving DecidableEq, Repr

namespace Pass

/-- What a pass makes of an instance. -/
def apply : Pass → LogInstance → LogInstance
  | expand => LogInstance.expand
  | simplify => LogInstance.simplify

/-- What passes make of an instance, each working on what the one before has left. -/
def applyAll (ps : List Pass) (i : LogInstance) : LogInstance :=
  ps.foldl (fun i p => p.apply i) i

/-- What a sequence of passes comes down to: the passes say no more than whether there are any, and
whether one of them simplifies. -/
def outcome (ps : List Pass) (i : LogInstance) : LogInstance :=
  if simplify ∈ ps then i.simplify
  else if ps = [] then i
  else i.expand

/-- **One more pass** leads from one outcome to another. -/
theorem apply_outcome (p : Pass) (ps : List Pass) (i : LogInstance) :
    p.apply (outcome ps i) = outcome (ps ++ [p]) i := by
  by_cases hsimplified : simplify ∈ ps
  · -- nothing changes any more
    have hmore : simplify ∈ ps ++ [p] := List.mem_append_left _ hsimplified
    rw [outcome, if_pos hsimplified, outcome, if_pos hmore]
    cases p with
    | expand => exact i.expand_simplify
    | simplify => exact i.simplify_simplify
  · rw [outcome, if_neg hsimplified]
    cases p with
    | simplify =>
        have hmore : simplify ∈ ps ++ [simplify] :=
          List.mem_append_right _ (List.mem_singleton_self _)
        rw [outcome, if_pos hmore]
        split
        · rfl
        · exact i.simplify_expand
    | expand =>
        have hmore : simplify ∉ ps ++ [expand] := by simpa using hsimplified
        rw [outcome, if_neg hmore, if_neg (List.append_ne_nil_of_right_ne_nil _ (by simp))]
        split
        · rfl
        · exact i.expand_expand

/-- A sequence of passes has its outcome. -/
theorem applyAll_eq_outcome (ps : List Pass) (i : LogInstance) :
    applyAll ps i = outcome ps i := by
  induction ps using List.reverseRecOn with
  | nil => rfl
  | append_singleton ps p ih =>
      rw [applyAll, List.foldl_append]
      show p.apply (applyAll ps i) = outcome (ps ++ [p]) i
      rw [ih, apply_outcome]

/-- **Passes reduce to a normal form.** A sequence of passes, however long, leaves an instance as it
is if it is empty. Otherwise it leaves what one pass leaves: the simplified instance as soon as some
pass simplifies, wherever that pass stands, and the expanded one if none does. So each pass is
idempotent. This holds of every instance, whatever its receiver and its processors are. -/
theorem applyAll_eq (i : LogInstance) :
    (∀ ps, applyAll ps i =
      if simplify ∈ ps then i.simplify else if ps = [] then i else i.expand) ∧
    i.expand.expand = i.expand ∧ i.simplify.simplify = i.simplify :=
  ⟨fun ps => applyAll_eq_outcome ps i, i.expand_expand, i.simplify_simplify⟩

end Pass

end Telemetry
