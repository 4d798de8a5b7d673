import Telemetry.Proofs.Registry

/-!
# The registry after any calls

The registry keeps the names in use apart from the parsers, and enters a name before it adds the
parser. That the two stay in step is what every call preserves, be it successful or not:

* **`ParserRegistry.InStep.offer`** — one call keeps the names in use those of the parsers, which are
  proper and pairwise distinct.
* **`ParserRegistry.users_afterCalls`** — the parsers are those of the successful calls, in order.
* **`ParserRegistry.afterCalls_spec`** — both after any calls on a new registry, and what comes of the
  next call.
-/

namespace Telemetry

namespace ParserRegistry

variable {r : ParserRegistry} {s : Section}

/-! ## Runs of calls -/

/-- The registry after some calls, whatever has come of each. -/
def afterCalls (r : ParserRegistry) (calls : List Section) : ParserRegistry :=
  calls.foldl (fun r s => (r.offer s).2) r

/-- The parsers of the successful calls, each made on the registry that those before it have left. -/
def taken (r : ParserRegistry) : List Section → List Section
  | [] => []
  | s :: calls =>
    if (r.offer s).1.isOk then s :: (r.offer s).2.taken calls else (r.offer s).2.taken calls

/-! ## What a call preserves -/

/-- The names in use and the parsers of a registry are in step. -/
structure InStep (r : ParserRegistry) : Prop where
  /-- The names in use are those of the built-in and of the other parsers, each once. -/
  names : r.names.Perm (ParserDef.builtinNames ++ r.users.map nameOf)
  /-- Every other parser has a name, which is not reserved. -/
  proper : ∀ s ∈ r.users, nameOf s ≠ "" ∧ isReserved (nameOf s) = false
  /-- No two of them share it. -/
  distinct : (r.users.map nameOf).Nodup

theorem inStep_new : new.InStep where
  names := by simp [new]
  proper := by simp [new]
  distinct := by simp [new]

/-- **One call keeps names and parsers in step.** The cases are those of the call: only if the parser
is taken is there anything to show. -/
theorem InStep.offer (h : r.InStep) (s : Section) : (r.offer s).2.InStep := by
  obtain ⟨-, ho⟩ | ⟨-, -, ho⟩ | ⟨⟨hne, hreserved, hnew⟩, ho⟩ := offer_cases r s <;> rw [ho]
  · exact h
  · exact h
  · have hused : nameOf s ∉ r.users.map nameOf := by
      intro hm
      exact hnew (h.names.mem_iff.mpr (List.mem_append_right _ hm))
    constructor
    case names =>
      rw [List.map_append, ← List.append_assoc]
      exact (h.names.cons _).trans (List.perm_append_singleton _ _).symm
    case proper =>
      intro p hp
      rcases List.mem_append.mp hp with hp | hp
      · exact h.proper p hp
      · rw [List.mem_singleton.mp hp]
        exact ⟨hne, hreserved⟩
    case distinct =>
      rw [List.map_append]
      exact h.distinct.append (List.nodup_singleton _) (List.disjoint_singleton.mpr hused)

/-- Any calls do. The induction is on the calls, with the registry changing. -/
theorem InStep.afterCalls (h : r.InStep) (calls : List Section) : (r.afterCalls calls).InStep := by
  induction calls generalizing r with
  | nil => exact h
  | cons s calls ih => exact ih (h.offer s)

/-- **The parsers after some calls** are those from before and those of the successful calls. -/
theorem users_afterCalls (r : ParserRegistry) (calls : List Section) :
    (r.afterCalls calls).users = r.users ++ r.taken calls := by
  induction calls generalizing r with
  | nil => exact (List.append_nil _).symm
  | cons s calls ih =>
      show ((r.offer s).2.afterCalls calls).users = _
      rw [ih, taken]
      obtain ⟨-, ho⟩ | ⟨-, -, ho⟩ | ⟨-, ho⟩ := offer_cases r s <;> rw [ho]
      · rfl
      · rfl
      · exact List.append_assoc _ _ _

/-! ## What comes of the next call -/

/-- A section without a value for its name, or with the empty one, is nameless. -/
theorem nameOf_eq_empty_iff : nameOf s = "" ↔ s.get? "Name" = none ∨ s.get? "Name" = some "" := by
  rw [nameOf]
  cases s.get? "Name" <;> simp

/-- Any other name is the value for it. -/
theorem nameOf_eq_iff {n : String} (hn : n ≠ "") : nameOf s = n ↔ s.get? "Name" = some n := by
  rw [nameOf]
  cases s.get? "Name" with
  | none => simpa using hn.symm
  | some v => simp

/-- The built-in parsers bear their names. -/
theorem map_nameOf_builtins :
    (ParserDef.builtins.map ParserDef.toSection).map nameOf = ParserDef.builtinNames := by
  decide

/-- The empty name is never in use. -/
theorem InStep.empty_not_mem (h : r.InStep) : "" ∉ r.names := by
  rw [h.names.mem_iff, List.mem_append, not_or]
  refine ⟨by decide, ?_⟩
  intro hm
  obtain ⟨s, hs, hn⟩ := List.mem_map.mp hm
  exact (h.proper s hs).1 hn

/-- A call fails for want of a name exactly if there is none. -/
theorem offer_nameless_iff (r : ParserRegistry) (s : Section) :
    (r.offer s).1 = .error .emptyParserName ↔ nameOf s = "" := by
  obtain ⟨hempty, ho⟩ | ⟨hne, -, ho⟩ | ⟨⟨hne, -⟩, ho⟩ := offer_cases r s <;> rw [ho]
  · simpa using hempty
  · simpa using hne
  · simpa using hne

/-- A call fails for its name exactly if that is reserved or in use. -/
theorem InStep.offer_collision_iff (h : r.InStep) (s : Section) (n : String) :
    (r.offer s).1 = .error (.parserCollision n) ↔
      s.get? "Name" = some n ∧ (isReserved n = true ∨ r.contains n = true) := by
  have hcontains : r.contains n = true ↔ n ∈ r.names := List.contains_iff_mem
  rw [hcontains]
  by_cases hn : n = ""
  · -- no call fails for the empty name, which is neither reserved nor in use
    subst hn
    have hright : ¬ (isReserved "" = true ∨ "" ∈ r.names) := by
      rintro (hreserved | hused)
      · exact absurd hreserved (by decide)
      · exact h.empty_not_mem hused
    obtain ⟨-, ho⟩ | ⟨hne, -, ho⟩ | ⟨-, ho⟩ := offer_cases r s <;> rw [ho] <;>
      simp_all
  · rw [← nameOf_eq_iff hn]
    obtain ⟨hempty, ho⟩ | ⟨-, hbad, ho⟩ | ⟨⟨-, hreserved, hnew⟩, ho⟩ := offer_cases r s <;> rw [ho]
    · refine iff_of_false (by simp) ?_
      rintro ⟨rfl, -⟩
      exact hn hempty
    · constructor
      · intro he
        obtain rfl := SectionError.parserCollision.inj (Except.error.inj he)
        exact ⟨rfl, hbad⟩
      · rintro ⟨rfl, -⟩
        rfl
    · refine iff_of_false (by simp) ?_
      rintro ⟨rfl, hbad | hused⟩
      · rw [hbad] at hreserved
        exact Bool.noConfusion hreserved
      · exact hnew hused

/-- A call fails in no other way, and one that fails leaves the registry as it was. -/
theorem offer_failed {e : SectionError} (h : (r.offer s).1 = .error e) :
    (e = .emptyParserName ∨ ∃ n, e = .parserCollision n) ∧ (r.offer s).2 = r := by
  obtain ⟨-, ho⟩ | ⟨-, -, ho⟩ | ⟨-, ho⟩ := offer_cases r s <;> rw [ho] at h ⊢
  · exact ⟨.inl (Except.error.inj h).symm, rfl⟩
  · exact ⟨.inr ⟨_, (Except.error.inj h).symm⟩, rfl⟩
  · exact nomatch h

/-! ## The registry after any calls -/

/-- **The registry after any calls.** The names in use are the eight built-in ones and those of the
accepted parsers, which are not empty, not reserved and pairwise distinct; the finished list has the
built-in parsers in their order and then those of the successful calls in theirs. The next call
fails exactly for a missing or empty name, or for one that is reserved or in use, and then leaves
the registry as it was. -/
theorem afterCalls_spec (calls : List Section) :
    (ParserDef.builtinNames.length = 8 ∧ (new.afterCalls calls).names.Nodup ∧
      ∀ n, (new.afterCalls calls).contains n = true ↔
        n ∈ ParserDef.builtinNames ∨ n ∈ (new.afterCalls calls).users.map nameOf) ∧
    (∀ s ∈ (new.afterCalls calls).users, ∃ n, s.get? "Name" = some n ∧ n ≠ "" ∧
      ¬ reservedHead.toList <+: n.toList) ∧
    ((new.afterCalls calls).users.map nameOf).Nodup ∧
    ((new.afterCalls calls).users = new.taken calls ∧
      (new.afterCalls calls).toSections
        = ParserDef.builtins.map ParserDef.toSection ++ new.taken calls ∧
      (ParserDef.builtins.map ParserDef.toSection).map nameOf = ParserDef.builtinNames) ∧
    ∀ s : Section,
      (((new.afterCalls calls).offer s).1 = .error .emptyParserName ↔
        s.get? "Name" = none ∨ s.get? "Name" = some "") ∧
      (∀ n, ((new.afterCalls calls).offer s).1 = .error (.parserCollision n) ↔
        s.get? "Name" = some n ∧ (isReserved n = true ∨ (new.afterCalls calls).contains n = true)) ∧
      ∀ e, ((new.afterCalls calls).offer s).1 = .error e →
        (e = .emptyParserName ∨ ∃ n, e = .parserCollision n) ∧
          ((new.afterCalls calls).offer s).2 = new.afterCalls calls := by
  have husers : (new.afterCalls calls).users = new.taken calls := users_afterCalls new calls
  have h : (new.afterCalls calls).InStep := inStep_new.afterCalls calls
  revert husers h
  generalize new.afterCalls calls = r
  intro husers h
  refine ⟨⟨rfl, ?nodup, ?known⟩, ?proper, h.distinct, ⟨husers, ?sections, map_nameOf_builtins⟩, ?next⟩
  case nodup =>
    refine h.names.nodup_iff.mpr (ParserDef.builtinNames_nodup.append h.distinct ?_)
    intro n hbuiltin huser
    obtain ⟨s, hs, rfl⟩ := List.mem_map.mp huser
    have hreserved := (h.proper s hs).2
    rw [ParserDef.isReserved_of_mem_builtinNames _ hbuiltin] at hreserved
    exact Bool.noConfusion hreserved
  case known =>
    intro n
    rw [contains, List.contains_iff_mem, h.names.mem_iff, List.mem_append]
  case proper =>
    intro s hs
    obtain ⟨hne, hreserved⟩ := h.proper s hs
    refine ⟨nameOf s, (nameOf_eq_iff hne).mp rfl, hne, ?_⟩
    rw [← List.isPrefixOf_iff_prefix]
    rw [isReserved, Text.startsWith] at hreserved
    rw [hreserved]
    exact Bool.false_ne_true
  case sections => rw [toSections, husers]
  case next =>
    intro s
    exact ⟨(offer_nameless_iff r s).trans nameOf_eq_empty_iff, h.offer_collision_iff s,
      fun _ he => offer_failed he⟩

/-- A parser, one without a name, a second one of the first name, one of a reserved name, and
another parser. -/
def collidingCalls : List Section := [
  Section.ofFields .parser [("Name", "p1.r1.0"), ("Format", "json")],
  Section.ofFields .parser [("Format", "json")],
  Section.ofFields .parser [("Name", "p1.r1.0"), ("Format", "regex")],
  Section.ofFields .parser [("Name", "lib:other"), ("Format", "json")],
  Section.ofFields .parser [("Name", "p0.r0.0"), ("Format", "json")]]

/-- Two of the five calls succeed, and a name that is in use cannot be taken again. -/
theorem afterCalls_spec_collidingCalls :
    (new.afterCalls collidingCalls).users.map nameOf = ["p1.r1.0", "p0.r0.0"] ∧
      (new.afterCalls collidingCalls).offer (Section.ofFields .parser [("Name", "p0.r0.0")])
        = (.error (.parserCollision "p0.r0.0"), new.afterCalls collidingCalls) := by
  obtain ⟨⟨-, -, hknown⟩, -, -, ⟨husers, -⟩, hnext⟩ := afterCalls_spec collidingCalls
  have hnames : (new.afterCalls collidingCalls).users.map nameOf = ["p1.r1.0", "p0.r0.0"] := by
    rw [husers]
    rfl
  obtain ⟨-, hcollision, hfailed⟩ := hnext (Section.ofFields .parser [("Name", "p0.r0.0")])
  have hused := (hknown "p0.r0.0").mpr (.inr (by rw [hnames]; decide))
  have herror := (hcollision "p0.r0.0").mpr ⟨by decide, .inr hused⟩
  exact ⟨hnames, Prod.ext herror (hfailed _ herror).2⟩

end ParserRegistry

end Telemetry
