import Mathlib.Logic.Relation
import Telemetry.Logging.Processor
import Telemetry.Proofs.Failing

/-!
# The machine that joins lines

Line rules are a machine: a line that matches a rule of the present state belongs to the message and
leads to the next state. The rules of several languages stand one after the other, in whatever order
and however often a configuration asks for them, and are to be one machine still.

* **`LineMachine`** — rules that begin at the start, lead only to states that have rules, and name no
  state to which they do not lead.
* **`LineMachine.reached_iff`** — so a run comes to the states that have rules, and to no other.
* **`LineMachine.append`** — two machines one after the other are one.
* **`Filter.LineRule.Rooted`** — what can be evaluated of a table to see that it is a machine.
* **`LineGroup.rules_closed`** — accepted groups make one machine of the tables of all their languages,
  which have only the start in common.
* **`LineGroup.ofLanguage_run`** — a message that began in one language stays in it, whatever other
  languages there are.
-/

namespace Telemetry

open Failing
open Telemetry.Filter (LineRule)
open Relation (ReflTransGen)

/-! ## States -/

namespace Filter.LineRule

/-- The state in which every message begins. -/
def startState : String := "start_state"

/-- The two states that a rule names. -/
def states (r : LineRule) : List String := [r.state, r.next]

/-- One of the rules leads from one state to another. -/
def Leads (rules : List LineRule) (s t : String) : Prop :=
  ∃ r ∈ rules, r.state = s ∧ r.next = t

/-- Where some rules lead, more rules do. -/
theorem Leads.mono {rules rules' : List LineRule} (hsub : rules ⊆ rules') {s t : String}
    (h : Leads rules s t) : Leads rules' s t := by
  obtain ⟨r, hr, hs, ht⟩ := h
  exact ⟨r, hsub hr, hs, ht⟩

/-- Where a run of some rules leads, one of more rules does. -/
theorem run_mono {rules rules' : List LineRule} (hsub : rules ⊆ rules') {s t : String}
    (h : ReflTransGen (Leads rules) s t) : ReflTransGen (Leads rules') s t :=
  ReflTransGen.mono (fun _ _ => Leads.mono hsub) s t h

/-- Two tables share no state but the start. -/
def Apart (table table' : List LineRule) : Prop :=
  ∀ r ∈ table, ∀ r' ∈ table', ∀ s ∈ r.states, s ∈ r'.states → s = startState

instance (table table' : List LineRule) : Decidable (Apart table table') :=
  inferInstanceAs (Decidable (∀ r ∈ table, ∀ r' ∈ table', ∀ s ∈ r.states, s ∈ r'.states →
    s = startState))

end Filter.LineRule

open Telemetry.Filter.LineRule

/-! ## Machines -/

/-- Rules are one machine. -/
structure LineMachine (rules : List LineRule) : Prop where
  /-- There are rules, and the first is one for the start. -/
  begins : rules.head?.map (·.state) = some startState
  /-- There are rules for each state to which a rule leads. -/
  defined : ∀ r ∈ rules, ∃ r' ∈ rules, r'.state = r.next
  /-- The rules lead from the start to each state that one of them names. -/
  reached : ∀ r ∈ rules, ∀ s ∈ r.states, ReflTransGen (Leads rules) startState s

namespace LineMachine

variable {rules rules' : List LineRule}

theorem exists_start (h : LineMachine rules) : ∃ r ∈ rules, r.state = startState := by
  obtain ⟨r, hr, hstate⟩ := Option.map_eq_some_iff.mp h.begins
  exact ⟨r, List.mem_of_mem_head? hr, hstate⟩

/-- A machine has rules. -/
theorem ne_nil (h : LineMachine rules) : rules ≠ [] := by
  obtain ⟨r, hr, -⟩ := h.exists_start
  exact List.ne_nil_of_mem hr

/-- **A run comes to the states that have rules,** and to no other. -/
theorem reached_iff (h : LineMachine rules) {s : String} :
    ReflTransGen (Leads rules) startState s ↔ ∃ r ∈ rules, r.state = s := by
  constructor
  · intro hrun
    induction hrun with
    | refl => exact h.exists_start
    | tail _ hstep =>
        obtain ⟨r, hr, -, rfl⟩ := hstep
        exact h.defined r hr
  · rintro ⟨r, hr, rfl⟩
    exact h.reached r hr r.state List.mem_cons_self

/-- **Two machines one after the other are one,** which begins like the first. -/
theorem append (h : LineMachine rules) (h' : LineMachine rules') : LineMachine (rules ++ rules') where
  begins := by
    rw [List.head?_append_of_ne_nil _ h.ne_nil]
    exact h.begins
  defined := by
    intro r hr
    rcases List.mem_append.mp hr with hr | hr
    · obtain ⟨next, hnext, hstate⟩ := h.defined r hr
      exact ⟨next, List.mem_append_left _ hnext, hstate⟩
    · obtain ⟨next, hnext, hstate⟩ := h'.defined r hr
      exact ⟨next, List.mem_append_right _ hnext, hstate⟩
  reached := by
    intro r hr s hs
    rcases List.mem_append.mp hr with hr | hr
    · exact run_mono (List.subset_append_left _ _) (h.reached r hr s hs)
    · exact run_mono (List.subset_append_right _ _) (h'.reached r hr s hs)

/-- So are any number of machines, if there is one. -/
theorem flatten {tables : List (List LineRule)} (hne : tables ≠ [])
    (h : ∀ table ∈ tables, LineMachine table) : LineMachine tables.flatten := by
  induction tables with
  | nil => exact absurd rfl hne
  | cons table tables ih =>
      obtain ⟨htable, htables⟩ := List.forall_mem_cons.mp h
      rw [List.flatten_cons]
      -- what stands behind the last table is no machine, but nothing
      cases tables with
      | nil =>
          rw [List.flatten_nil, List.append_nil]
          exact htable
      | cons table' tables => exact htable.append (ih (List.cons_ne_nil _ _) htables)

end LineMachine

/-! ## The tables of the languages -/

namespace Filter.LineRule

/-- Each rule is for a state that is known when it is read: one of those given, or one to which a rule
before it leads. -/
def Rooted (known : List String) : List LineRule → Prop
  | [] => True
  | r :: rules => r.state ∈ known ∧ Rooted (r.next :: known) rules

instance Rooted.decidable (known : List String) : (rules : List LineRule) →
    Decidable (Rooted known rules)
  | [] => inferInstanceAs (Decidable True)
  | r :: rules =>
    have := Rooted.decidable (r.next :: known) rules
    inferInstanceAs (Decidable (r.state ∈ known ∧ Rooted (r.next :: known) rules))

/-- If a run comes to all that is known, it comes to all that the rules name. -/
theorem Rooted.reached {all rules : List LineRule} {known : List String} (h : Rooted known rules)
    (hsub : rules ⊆ all) (hknown : ∀ s ∈ known, ReflTransGen (Leads all) startState s) :
    ∀ r ∈ rules, ∀ s ∈ r.states, ReflTransGen (Leads all) startState s := by
  induction rules generalizing known with
  | nil =>
      intro r hr
      exact nomatch hr
  | cons r rules ih =>
      obtain ⟨hstate, hrest⟩ := h
      obtain ⟨hr, hsub⟩ := List.cons_subset.mp hsub
      have hfrom : ReflTransGen (Leads all) startState r.state := hknown r.state hstate
      have hto : ReflTransGen (Leads all) startState r.next := hfrom.tail ⟨r, hr, rfl, rfl⟩
      rw [List.forall_mem_cons]
      constructor
      · exact List.forall_mem_cons.mpr ⟨hfrom, List.forall_mem_singleton.mpr hto⟩
      · exact ih hrest hsub (List.forall_mem_cons.mpr ⟨hto, hknown⟩)

end Filter.LineRule

/-- What can be evaluated of a table makes it a machine. -/
theorem LineMachine.of_rooted {table : List LineRule}
    (hbegins : table.head?.map (·.state) = some startState)
    (hdefined : ∀ r ∈ table, ∃ r' ∈ table, r'.state = r.next) (hrooted : Rooted [startState] table) :
    LineMachine table where
  begins := hbegins
  defined := hdefined
  reached := hrooted.reached (List.Subset.refl _) (List.forall_mem_singleton.mpr .refl)

/-- The supported languages are those with rules. -/
theorem lineRules?_isSome_iff {language : String} :
    (lineRules? language).isSome = true ↔ language ∈ lineLanguages := by
  simp only [lineRules?, lineLanguages, List.mem_cons, List.not_mem_nil, or_false]
  split_ifs <;> simp_all

theorem mem_lineLanguages {language : String} {table : List LineRule}
    (h : lineRules? language = some table) : language ∈ lineLanguages :=
  lineRules?_isSome_iff.mp (Option.isSome_of_mem h)

/-- The table of each language is a machine. -/
theorem lineRules?_machine {language : String} {table : List LineRule}
    (h : lineRules? language = some table) : LineMachine table := by
  have hall : ∀ l ∈ lineLanguages, ∀ t ∈ lineRules? l,
      t.head?.map (·.state) = some startState ∧ (∀ r ∈ t, ∃ r' ∈ t, r'.state = r.next) ∧
        Rooted [startState] t := by
    decide
  obtain ⟨hbegins, hdefined, hrooted⟩ := hall language (mem_lineLanguages h) table h
  exact .of_rooted hbegins hdefined hrooted

/-- The tables of two languages share the start only. -/
theorem lineRules?_apart {language language' : String} {table table' : List LineRule}
    (hne : language ≠ language') (h : lineRules? language = some table)
    (h' : lineRules? language' = some table') : Apart table table' := by
  have hall : ∀ l ∈ lineLanguages, ∀ l' ∈ lineLanguages, l ≠ l' →
      ∀ t ∈ lineRules? l, ∀ t' ∈ lineRules? l', Apart t t' := by
    decide
  exact hall language (mem_lineLanguages h) language' (mem_lineLanguages h') hne table h table' h'

/-! ## Groups -/

/-- A group is accepted if its type is the only one there is and its language is supported. -/
theorem LineGroup.check_eq_ok {g : LineGroup} {id : String} :
    g.check id = .ok () ↔ g.groupType = languageExceptions ∧ g.language ∈ lineLanguages := by
  rw [LineGroup.check, ← lineRules?_isSome_iff]
  by_cases htype : g.groupType = languageExceptions
  · rw [if_neg (not_not_intro htype)]
    cases lineRules? g.language with
    | none => exact ⟨fun h => (nomatch h), fun h => (nomatch h.2)⟩
    | some table => exact ⟨fun _ => ⟨htype, rfl⟩, fun _ => rfl⟩
  · rw [if_pos htype]
    exact ⟨fun h => (nomatch h), fun h => absurd h.1 htype⟩

/-- Accepted are all lists of accepted groups, in any order and with any repetitions, but the empty
one. -/
theorem LogProcessorConfig.check_parseMultiline_eq_ok {id : String} {gs : List LineGroup} :
    (parseMultiline gs).check id = .ok () ↔
      gs ≠ [] ∧ ∀ g ∈ gs, g.groupType = languageExceptions ∧ g.language ∈ lineLanguages := by
  cases gs with
  | nil => exact ⟨fun h => (nomatch h), fun h => absurd rfl h.1⟩
  | cons g gs =>
      rw [show (parseMultiline (g :: gs)).check id = (g :: gs).forM (·.check id) from rfl, forM_eq_ok]
      simp only [LineGroup.check_eq_ok, ne_eq, reduceCtorEq, not_false_eq_true, true_and]

namespace LineGroup

/-- Each of the tables is that of a group, in the order of the groups. -/
def Tables (gs : List LineGroup) (tables : List (List LineRule)) : Prop :=
  List.Forall₂ (fun g table => lineRules? g.language = some table) gs tables

/-- The rules of all groups are their tables one after the other. -/
theorem rules_eq_flatten {gs : List LineGroup} {tables : List (List LineRule)} (h : Tables gs tables) :
    rules gs = tables.flatten := by
  induction h with
  | nil => rfl
  | @cons g table gs tables hg _ ih =>
      rw [List.flatten_cons, ← ih]
      simp only [rules, List.flatMap_cons, hg, Option.getD_some]

/-- Accepted groups have tables. -/
theorem exists_tables {id : String} {gs : List LineGroup}
    (h : (LogProcessorConfig.parseMultiline gs).check id = .ok ()) : ∃ tables, Tables gs tables := by
  refine exists_forall₂ fun g hg => ?_
  obtain ⟨-, hlanguage⟩ := (LogProcessorConfig.check_parseMultiline_eq_ok.mp h).2 g hg
  exact Option.isSome_iff_exists.mp (lineRules?_isSome_iff.mpr hlanguage)

/-- Accepted groups are one machine. -/
theorem rules_machine {id : String} {gs : List LineGroup}
    (h : (LogProcessorConfig.parseMultiline gs).check id = .ok ()) : LineMachine (rules gs) := by
  obtain ⟨tables, htables⟩ := exists_tables h
  rw [rules_eq_flatten htables]
  apply LineMachine.flatten
  · rintro rfl
    cases htables
    exact (LogProcessorConfig.check_parseMultiline_eq_ok.mp h).1 rfl
  · intro table htable
    obtain ⟨g, -, hg⟩ := exists_of_mem_forall₂ htables htable
    exact lineRules?_machine hg

/-- **Accepted groups make one closed machine.** Their rules are the tables of all their languages,
group by group; they begin at the start, lead only to states that have rules, and lead to each state;
and two languages have no state in common but the start. -/
theorem rules_closed {id : String} {gs : List LineGroup}
    (h : (LogProcessorConfig.parseMultiline gs).check id = .ok ()) :
    (∃ tables, Tables gs tables ∧ rules gs = tables.flatten) ∧ LineMachine (rules gs) ∧
      ∀ g ∈ gs, ∀ g' ∈ gs, g.language ≠ g'.language →
        ∀ table ∈ lineRules? g.language, ∀ table' ∈ lineRules? g'.language, Apart table table' := by
  obtain ⟨tables, htables⟩ := exists_tables h
  refine ⟨⟨tables, htables, rules_eq_flatten htables⟩, rules_machine h, ?_⟩
  intro g _ g' _ hne table htable table' htable'
  exact lineRules?_apart hne htable htable'

/-- Groups for all languages, one of them twice. -/
def repeatedGroups : List LineGroup :=
  ["python", "java", "python", "go"].map fun language => ⟨languageExceptions, language⟩

/-- All languages make one machine, also where one of them is asked for twice. -/
theorem rules_closed_repeatedGroups :
    (LogProcessorConfig.parseMultiline repeatedGroups).check "traces" = .ok () ∧
      (∃ tables, Tables repeatedGroups tables ∧ rules repeatedGroups = tables.flatten) ∧
      LineMachine (pythonRules ++ javaRules ++ pythonRules ++ goRules) ∧
      Apart pythonRules javaRules ∧ Apart javaRules goRules ∧ Apart goRules pythonRules := by
  have hcheck : (LogProcessorConfig.parseMultiline repeatedGroups).check "traces" = .ok () :=
    LogProcessorConfig.check_parseMultiline_eq_ok.mpr (by decide)
  have hrules : rules repeatedGroups = pythonRules ++ javaRules ++ pythonRules ++ goRules := by decide
  have hgroup : ∀ l ∈ lineLanguages, ⟨languageExceptions, l⟩ ∈ repeatedGroups := by decide
  obtain ⟨htables, hmachine, hapart⟩ := rules_closed hcheck
  rw [hrules] at hmachine
  refine ⟨hcheck, htables, hmachine, ?_, ?_, ?_⟩
  · exact hapart _ (hgroup "python" (by decide)) _ (hgroup "java" (by decide)) (by decide) _ rfl _ rfl
  · exact hapart _ (hgroup "java" (by decide)) _ (hgroup "go" (by decide)) (by decide) _ rfl _ rfl
  · exact hapart _ (hgroup "go" (by decide)) _ (hgroup "python" (by decide)) (by decide) _ rfl _ rfl

/-! ## Messages of one language -/

/-- A rule of the groups is from the table of one of their languages. -/
theorem mem_rules {gs : List LineGroup} {r : LineRule} (h : r ∈ rules gs) :
    ∃ g ∈ gs, ∃ table, lineRules? g.language = some table ∧ r ∈ table := by
  obtain ⟨g, hg, hr⟩ := List.mem_flatMap.mp h
  cases htable : lineRules? g.language with
  | none =>
      rw [htable] at hr
      exact nomatch hr
  | some table =>
      rw [htable] at hr
      exact ⟨g, hg, table, htable, hr⟩

/-- A state that the table of a language names. -/
def OfLanguage (language s : String) : Prop :=
  ∃ table, lineRules? language = some table ∧ ∃ r ∈ table, s ∈ r.states

/-- A step from a state of a language, but not from the start, leads to a state of that language. -/
theorem OfLanguage.step {gs : List LineGroup} {language s t : String} (hs : OfLanguage language s)
    (hstart : s ≠ startState) (h : Leads (rules gs) s t) : OfLanguage language t := by
  obtain ⟨r, hr, rfl, rfl⟩ := h
  obtain ⟨g, -, table', htable', hr⟩ := mem_rules hr
  obtain ⟨table, htable, r', hr', hs⟩ := hs
  by_cases hlanguage : language = g.language
  · rw [hlanguage]
    exact ⟨table', htable', r, hr, List.mem_cons_of_mem _ (List.mem_singleton.mpr rfl)⟩
  · have hshared := lineRules?_apart hlanguage htable htable' r' hr' r hr r.state hs List.mem_cons_self
    exact absurd hshared hstart

/-- **A message stays in its language.** From a state of one language, the rules of any groups lead to
states of that language only, until they lead back to the start. -/
theorem ofLanguage_run {gs : List LineGroup} {language s t : String} (hs : OfLanguage language s)
    (hstart : s ≠ startState)
    (h : ReflTransGen (fun s t => Leads (rules gs) s t ∧ t ≠ startState) s t) :
    OfLanguage language t ∧ t ≠ startState := by
  induction h with
  | refl => exact ⟨hs, hstart⟩
  | tail _ hstep ih => exact ⟨ih.1.step ih.2 hstep.1, hstep.2⟩

end LineGroup

end Telemetry
