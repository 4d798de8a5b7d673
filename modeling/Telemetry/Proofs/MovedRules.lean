import Telemetry.Proofs.LineMachine
import Telemetry.Proofs.Rename
import Telemetry.Proofs.Registry
import Telemetry.Proofs.Wiring

/-!
# Simplifying keeps what an instance does

Simplifying moves the line rules of a processor into the receiver in front of it, where lines can be
joined before they are cut into chunks. It changes nothing else:

* **`LogInstance.ResolvedIn.rules_machine`** — in an accepted domain, processors that join lines do so
  by one machine.
* **`LogInstance.Absorbs`** — an instance has taken over the rules from the front of another.
* **`LogInstance.simplify_cases`** — in an accepted configuration, the simplified instance is the
  expanded one, or has taken over its rules.
* **`LogInstance.renumber`** — the names for what processors bring along, one position later.
* **`LogInstance.simplify_preserves`** — the sections of both: the same line rules, and behind the
  receiver and the processor in question the same sections, up to these names.
-/

namespace Telemetry

open Failing

/-! ## Accepted line rules -/

/-- In an accepted domain, all processors that join lines do so by one machine. -/
theorem LogInstance.ResolvedIn.rules_machine {l : Logging} (hl : l.Accepted) {engine : LogEngine}
    {i : LogInstance} (h : i.ResolvedIn l engine) :
    ∀ b ∈ i.expand.processors, ∀ gs, b.processor = .configured (.parseMultiline gs) →
      LineMachine (LineGroup.rules gs) := by
  intro b hb gs hgs
  rcases LogInstance.expand_processor_cases hb with ⟨hb, -⟩ | ⟨app, happ⟩
  · obtain ⟨p, -, -, -, hbound, -⟩ := h.pipeline
    obtain ⟨id, -, hbind⟩ := exists_of_mem_forall₂ hbound hb
    obtain ⟨-, ⟨-, hbuiltin⟩ | ⟨config, hget, hconfig⟩⟩ := Logging.bindProcessor_eq_ok hbind
    · rw [hbuiltin] at hgs
      exact nomatch hgs
    · rw [hconfig] at hgs
      obtain rfl := LogProcessor.configured.inj hgs
      exact LineGroup.rules_machine (hl.processors _ _ hget)
  · exact absurd hgs ((LogProcessor.forApp_ne happ).2 gs)

/-! ## Rules that move into the receiver -/

namespace LogInstance

/-- Two instances have the same ids, send to the same exporters and are for the same engine. -/
structure Akin (i j : LogInstance) : Prop where
  pipeline : i.pipeline = j.pipeline
  receiverId : i.receiverId = j.receiverId
  exporters : i.exporters = j.exporters
  engine : i.engine = j.engine

/-- The instance `s` has taken over the line rules from the front of the instance `e`: these were
those of its first processor, and now are those of its receiver, a tail that had none. -/
structure Absorbs (e s : LogInstance) (source : FileSource) (id : String) (groups : List LineGroup)
    (rest : List Binding) : Prop where
  receiver : e.receiver = .tail source []
  processors : e.processors = ⟨id, .configured (.parseMultiline groups)⟩ :: rest
  rules : LineGroup.rules groups ≠ []
  receiver_after : s.receiver = .tail source (LineGroup.rules groups)
  processors_after : s.processors = rest
  /-- It can take over no more. -/
  full : s.receiver.canAbsorb = false

variable {c : Config} {engine : LogEngine} {is : List LogInstance} {i : LogInstance}

/-- **What simplifying does to a bound instance** of an accepted domain, behind expanding it. -/
theorem simplify_cases {l : Logging} (hl : l.Accepted) (h : i.ResolvedIn l engine) :
    i.simplify = i.expand ∨
      ∃ source id groups rest, i.expand.Absorbs i.simplify source id groups rest := by
  have hsimplify : i.simplify = { i.expand with
      receiver := (i.expand.receiver.absorbAll i.expand.processors).1
      processors := (i.expand.receiver.absorbAll i.expand.processors).2 } := rfl
  have hrules : ∀ b ∈ i.expand.processors, ∀ gs, b.processor = .configured (.parseMultiline gs) →
      LineGroup.rules gs ≠ [] :=
    fun b hb gs hgs => (h.rules_machine hl b hb gs hgs).ne_nil
  rcases i.expand.receiver.absorbAll_cases hrules with
    hsame | ⟨source, id, groups, rest, hreceiver, hprocessors, hrules, habsorbed⟩
  · refine .inl ?_
    rw [hsimplify, hsame]
  · have hafter : i.simplify.receiver = .tail source (LineGroup.rules groups) := by
      rw [hsimplify, habsorbed]
    refine .inr ⟨source, id, groups, rest, hreceiver, hprocessors, hrules, hafter, ?_, ?_⟩
    · rw [hsimplify, habsorbed]
    · rw [hafter]
      cases hgroups : LineGroup.rules groups with
      | nil => exact absurd hgroups hrules
      | cons rule rules => rfl

/-! ## Names one position later -/

/-- The names for what the processors of an instance bring along, with those one position later. -/
def renumbering (i : LogInstance) : Keyed String :=
  .ofList ((List.range i.processors.length).flatMap fun k =>
    [(i.uid k, i.uid (k + 1)), ("multiline." ++ i.uid k, "multiline." ++ i.uid (k + 1))])

/-- The name one position later, where a text is a name for what a processor brings along. -/
def renumber (i : LogInstance) (n : String) : String :=
  (i.renumbering.get? n).getD n

theorem uid_injective (i : LogInstance) {k k' : Nat} (h : i.uid k = i.uid k') : k = k' :=
  Text.decimal_injective (Text.append_dot_inj (Text.dot_notMem_decimal k)
    (Text.dot_notMem_decimal k') h).2

/-- A name for a parser is none for a line-joining parser, whose stem is longer. -/
theorem uid_ne_multiline (i : LogInstance) (k k' : Nat) : i.uid k ≠ "multiline." ++ i.uid k' := by
  intro h
  have hstem : "multiline." ++ i.uid k'
      = ("multiline." ++ i.tag.base) ++ "." ++ Text.decimal k' := by
    simp [uid, String.append_assoc]
  rw [hstem] at h
  have hbase := (Text.append_dot_inj (Text.dot_notMem_decimal k)
    (Text.dot_notMem_decimal k') h).1
  have hlength := congrArg (fun s : String => s.toList.length) hbase
  simp at hlength
  omega

/-- A name for what the processor at a position brings along, and the one for the next position. -/
def Follows (i : LogInstance) (k : Nat) (n n' : String) : Prop :=
  (n = i.uid k ∧ n' = i.uid (k + 1)) ∨
    (n = "multiline." ++ i.uid k ∧ n' = "multiline." ++ i.uid (k + 1))

/-- At most one name follows another. -/
theorem Follows.unique {k k' : Nat} {n n₁ n₂ : String} (h : i.Follows k n n₁)
    (h' : i.Follows k' n n₂) : n₁ = n₂ := by
  rcases h with ⟨rfl, rfl⟩ | ⟨rfl, rfl⟩ <;> rcases h' with ⟨he, rfl⟩ | ⟨he, rfl⟩
  · rw [i.uid_injective he]
  · exact absurd he (i.uid_ne_multiline k k')
  · exact absurd he.symm (i.uid_ne_multiline k' k)
  · rw [i.uid_injective ((String.append_right_inj _).mp he)]

/-- The names of an instance are renumbered to those that follow them. -/
theorem get?_renumbering {n n' : String} :
    i.renumbering.get? n = some n' ↔ ∃ k < i.processors.length, i.Follows k n n' := by
  have hmem : ∀ n', (n, n') ∈ ((List.range i.processors.length).flatMap fun k =>
      [(i.uid k, i.uid (k + 1)), ("multiline." ++ i.uid k, "multiline." ++ i.uid (k + 1))]) ↔
        ∃ k < i.processors.length, i.Follows k n n' := by
    intro n'
    simp [Follows]
  constructor
  · intro h
    exact (hmem n').mp (Keyed.mem_of_get?_ofList h)
  · rintro ⟨k, hk, h⟩
    refine Keyed.get?_ofList ((hmem n').mpr ⟨k, hk, h⟩) ?_
    intro n₂ hn₂
    obtain ⟨k', -, h'⟩ := (hmem n₂).mp hn₂
    exact h'.unique h

/-- **A name is renumbered** to the one that follows it. -/
theorem Follows.renumber_eq {k : Nat} (hk : k < i.processors.length) {n n' : String}
    (h : i.Follows k n n') : i.renumber n = n' := by
  rw [renumber, get?_renumbering.mpr ⟨k, hk, h⟩]
  rfl

/-- A reserved name is kept, because the names of an instance begin with the id of a pipeline, or
are marked as those of line-joining parsers. -/
theorem renumber_of_isReserved (hp : isReserved i.pipeline = false) {n : String}
    (hn : isReserved n = true) : i.renumber n = n := by
  have huid : ∀ k, isReserved (i.uid k) = false := by
    intro k
    rw [uid, base_eq, isReserved_append_dot, isReserved_append_dot, hp]
  have hline : ∀ k, isReserved ("multiline." ++ i.uid k) = false := by
    intro k
    have hhead : "multiline." ++ i.uid k = "multiline" ++ "." ++ i.uid k := rfl
    rw [hhead, isReserved_append_dot]
    decide
  have hnone : i.renumbering.get? n = none := by
    by_contra hsome
    obtain ⟨n', hn'⟩ := Option.ne_none_iff_exists'.mp hsome
    obtain ⟨k, -, ⟨rfl, -⟩ | ⟨rfl, -⟩⟩ := get?_renumbering.mp hn'
    · rw [huid] at hn
      exact Bool.false_ne_true hn
    · rw [hline] at hn
      exact Bool.false_ne_true hn
  rw [renumber, hnone]
  rfl

/-! ## The sections of both -/

/-- The sections of processors one position later are the same under other names. -/
theorem sections?_zipIdx_succ {tag : Tag} {name : Nat → String} {f : String → String}
    {bs : List Binding} {k : Nat} {parts : List (List Section)}
    (hname : ∀ j, k ≤ j → j < k + bs.length →
      f (name j) = name (j + 1) ∧ f ("multiline." ++ name j) = "multiline." ++ name (j + 1))
    (hbuiltin : ∀ b ∈ bs, ∀ n, b.processor = .builtinParser n → f n = n)
    (h : List.Forall₂ (fun x part => x.1.processor.sections? tag (name x.2) = some part)
      (bs.zipIdx k) parts) :
    List.Forall₂ (fun x part => x.1.processor.sections? tag (name x.2) = some part)
      (bs.zipIdx (k + 1)) (parts.map fun part => part.map (Section.rename f)) := by
  induction bs generalizing k parts with
  | nil =>
      cases h
      exact .nil
  | cons b bs ih =>
      rw [List.zipIdx_cons] at h
      cases h with
      | cons hown hrest =>
          obtain ⟨hb, hbs⟩ := List.forall_mem_cons.mp hbuiltin
          obtain ⟨hparser, hline⟩ := hname k le_rfl (by simp)
          refine .cons (LogProcessor.sections?_rename hparser hline hb hown) (ih ?_ hbs hrest)
          intro j hj hlt
          exact hname j (by omega) (by simp; omega)

end LogInstance

/-- The rules that a section for a line-joining parser says. -/
theorem Filter.values_rule_lineParser (name : String) (rules : List LineRule) :
    (lineParser name rules).values "rule" = rules.map (·.render) := by
  have hall : (rules.map fun r => ("rule", r.render)).filter (·.1 = "rule")
      = rules.map fun r => ("rule", r.render) := by
    refine List.filter_eq_self.mpr ?_
    intro e he
    obtain ⟨r, -, rfl⟩ := List.mem_map.mp he
    rfl
  simp [Section.values_eq, lineParser, Section.ofFields, hall, Function.comp_def]

/-- The line rules in the sections for files are those of the tail. -/
theorem FileSource.valuesIn_rule (s : FileSource) (rules : List Filter.LineRule) (tag : Tag) :
    Section.valuesIn [.multilineParser] "rule" (s.sections rules tag) = rules.map (·.render) := by
  have hinput : ∀ parser,
      Section.valuesIn [.multilineParser] "rule" ((s.input parser).section? tag).toList = [] := by
    intro parser
    refine Section.valuesIn_eq_nil ?_
    intro t ht
    rw [Input.Tail.kind_of_section? (Option.mem_toList.mp ht)]
    decide
  rw [sections]
  split
  · rename_i hrules
    rw [List.isEmpty_iff.mp hrules, hinput]
    rfl
  · simp [Section.valuesIn_cons, hinput, Filter.values_rule_lineParser, Script.stripNewlineFilter,
      Script.filter, Section.ofFile]

namespace LogInstance

variable {c : Config} {engine : LogEngine} {is : List LogInstance} {i : LogInstance}

theorem expand_uid (i : LogInstance) (k : Nat) : i.expand.uid k = i.uid k := by
  rw [uid, uid, expand_tag]

/-- Where no clients extend the tag, only the identity filter closes the sections. -/
theorem closingSections_of_static {tag : Tag} (h : tag.dynamic = false) (i : LogInstance)
    (p : Platform) :
    i.closingSections tag p = [Filter.identity tag.routing i.pipeline i.receiverId p.hostname] := by
  rw [closingSections, h]
  rfl

/-- **The sections of an instance before and after its rules moved** into the receiver. Behind the
receiver and the processor that had the rules come the sections of the remaining processors and the
identity filter, which are the same up to names. -/
theorem sections_of_absorbs {l : Logging} (hl : l.Accepted) (h : i.ResolvedIn l engine)
    {source : FileSource} {id : String} {groups : List LineGroup} {rest : List Binding}
    (ha : i.expand.Absorbs i.simplify source id groups rest) (p : Platform) :
    ∃ parts rear,
      List.Forall₂ (fun x part => x.1.processor.sections? i.tag (i.uid x.2) = some part)
        rest.zipIdx parts ∧
      rear = parts.flatten ++ [Filter.identity i.tag.routing i.pipeline i.receiverId p.hostname] ∧
      i.simplify.sections p = .ok (source.sections (LineGroup.rules groups) i.tag ++ rear) ∧
      i.expand.sections p = .ok (source.sections [] i.tag
        ++ [Filter.lineParser ("multiline." ++ i.uid 0) (LineGroup.rules groups),
          Filter.joinLines i.tag.routing ("multiline." ++ i.uid 0)]
        ++ rear.map (Section.rename i.simplify.renumber)) := by
  obtain ⟨after, hafter, -⟩ := i.simplify_plain.sections_carries p
  obtain ⟨receiver, parts, hreceiver, hparts, rfl⟩ := sections_eq_ok.mp hafter
  rw [ha.receiver_after, simplify_tag] at hreceiver
  obtain rfl := Option.some.inj hreceiver
  simp only [ha.processors_after, simplify_tag, simplify_uid] at hparts
  have hstatic : i.tag.dynamic = false := by
    rw [← i.expand_tag, tag_dynamic, ha.receiver]
    rfl
  rw [simplify_tag, closingSections_of_static hstatic, List.append_assoc] at hafter
  refine ⟨parts, _, hparts, rfl, hafter, ?_⟩
  -- what is renamed: the names of the remaining processors, and nothing in the identity filter
  have hname : ∀ k, 0 ≤ k → k < 0 + rest.length →
      i.simplify.renumber (i.uid k) = i.uid (k + 1) ∧
        i.simplify.renumber ("multiline." ++ i.uid k) = "multiline." ++ i.uid (k + 1) := by
    intro k _ hk
    have hk : k < i.simplify.processors.length := by
      rw [ha.processors_after]
      omega
    rw [← i.simplify_uid k, ← i.simplify_uid (k + 1)]
    exact ⟨Follows.renumber_eq hk (.inl ⟨rfl, rfl⟩), Follows.renumber_eq hk (.inr ⟨rfl, rfl⟩)⟩
  have hbuiltin : ∀ b ∈ rest, ∀ n, b.processor = .builtinParser n → i.simplify.renumber n = n := by
    intro b hb n hn
    obtain ⟨_, hpipeline, -⟩ := h.pipeline
    have hmem : b ∈ i.expand.processors := by
      rw [ha.processors]
      exact List.mem_cons_of_mem _ hb
    exact renumber_of_isReserved (i := i.simplify)
      (hl.not_reserved (.inr (.inr (.inr (Keyed.mem_keys_iff.mpr ⟨_, hpipeline⟩)))))
      (ParserDef.isReserved_of_mem_builtinNames n (h.expand_builtin hmem hn))
  have hidentity : [Filter.identity i.tag.routing i.pipeline i.receiverId p.hostname].map
      (Section.rename i.simplify.renumber)
      = [Filter.identity i.tag.routing i.pipeline i.receiverId p.hostname] :=
    map_rename_eq_self (Carries.modify _ _) fun n hn => nomatch hn
  refine sections_eq_ok.mpr ⟨source.sections [] i.tag,
    [Filter.lineParser ("multiline." ++ i.uid 0) (LineGroup.rules groups),
      Filter.joinLines i.tag.routing ("multiline." ++ i.uid 0)]
      :: parts.map fun part => part.map (Section.rename i.simplify.renumber), ?_, ?_, ?_⟩
  · rw [ha.receiver, expand_tag]
    rfl
  · simp only [ha.processors, List.zipIdx_cons, expand_tag, expand_uid]
    exact .cons rfl (sections?_zipIdx_succ hname hbuiltin hparts)
  · rw [expand_tag, closingSections_of_static hstatic, List.map_append, hidentity, List.map_flatten,
      List.flatten_cons, ← List.append_assoc, ← List.append_assoc]
    rfl

/-- **Simplifying keeps what an instance does.** Of an instance of an accepted configuration, neither
expanding nor simplifying changes ids, exporters and engine. Both results have sections, and in them
the same line rules in the same order. Either they are one instance, with the same sections; or the
rules of the first processor have moved into the receiver. Then the sections of the remaining
processors and the identity filter are those of the expanded instance, once the names that go with
the position of a processor are those of the next position. -/
theorem simplify_preserves (hc : c.check = .ok ()) (his : c.logInstances engine = .ok is)
    (hi : i ∈ is) (p : Platform) :
    i.expand.Akin i ∧ i.simplify.Akin i ∧
    ∃ before after, i.expand.sections p = .ok before ∧ i.simplify.sections p = .ok after ∧
      Section.valuesIn [.multilineParser] "rule" after
        = Section.valuesIn [.multilineParser] "rule" before ∧
      ((i.simplify = i.expand ∧ after = before) ∨
        ∃ source id groups rest, i.expand.Absorbs i.simplify source id groups rest ∧
          ∃ parts rear,
            List.Forall₂ (fun x part => x.1.processor.sections? i.tag (i.uid x.2) = some part)
              rest.zipIdx parts ∧
            rear = parts.flatten
              ++ [Filter.identity i.tag.routing i.pipeline i.receiverId p.hostname] ∧
            after = source.sections (LineGroup.rules groups) i.tag ++ rear ∧
            before = source.sections [] i.tag
              ++ [Filter.lineParser ("multiline." ++ i.uid 0) (LineGroup.rules groups),
                Filter.joinLines i.tag.routing ("multiline." ++ i.uid 0)]
              ++ rear.map (Section.rename i.simplify.renumber)) := by
  obtain ⟨l, hl, hbound⟩ := (Config.logInstances_eq_ok his).2 i hi
  have hl := Config.logging_accepted hc hl
  refine ⟨⟨rfl, rfl, rfl, rfl⟩, ⟨rfl, rfl, rfl, rfl⟩, ?_⟩
  rcases simplify_cases hl hbound with hsame | ⟨source, id, groups, rest, ha⟩
  · obtain ⟨ss, hss, -⟩ := i.expand_plain.sections_carries p
    exact ⟨ss, ss, hss, hsame ▸ hss, rfl, .inl ⟨hsame, rfl⟩⟩
  · obtain ⟨parts, rear, hparts, hrear, hafter, hbefore⟩ := sections_of_absorbs hl hbound ha p
    refine ⟨_, _, hbefore, hafter, ?_,
      .inr ⟨source, id, groups, rest, ha, parts, rear, hparts, hrear, rfl, rfl⟩⟩
    -- the rules stand in front on both sides, and renaming does not touch those behind
    have hrule : ∀ kind ∈ [SectionKind.multilineParser], "rule" ∉ kind.nameKeys := by decide
    simp [FileSource.valuesIn_rule, Section.valuesIn_map_rename hrule, Section.valuesIn_cons,
      Filter.values_rule_lineParser]

/-- A receiver for files, which can take over rules, and one that cannot. -/
def movedRules : Config where
  logging := some {
    receivers := .ofList [
      ("f", .files { includePaths := ["/a.log"] }),
      ("s", .syslog "tcp" "0.0.0.0" 5140)]
    processors := .ofList [
      ("java", .parseMultiline [⟨languageExceptions, "java"⟩]),
      ("json", .parseJson {})]
    pipelines := .ofList [
      ("p", { receivers := ["f", "s"], processors := ["java", "json", "lib:nginx"] })] }

/-- The rules of one instance of `movedRules` move, and none are lost. -/
theorem simplify_preserves_movedRules : movedRules.check = .ok () ∧
    ∃ is, movedRules.logInstances .fluentBit = .ok is ∧
      is.map (fun i => i.simplify.processors.length) = [2, 3] ∧
      ∀ i ∈ is, ∃ before after, i.expand.sections samplePlatform = .ok before ∧
        i.simplify.sections samplePlatform = .ok after ∧
        Section.valuesIn [.multilineParser] "rule" after
          = Section.valuesIn [.multilineParser] "rule" before := by
  have hc : movedRules.check = .ok () := rfl
  have hlengths : (movedRules.logInstances .fluentBit).map (fun is =>
      is.map fun i => i.simplify.processors.length) = .ok [2, 3] := by
    rfl
  obtain ⟨is, his, hlengths⟩ := map_eq_ok.mp hlengths
  refine ⟨hc, is, his, hlengths, ?_⟩
  intro i hi
  obtain ⟨-, -, before, after, hbefore, hafter, hrules, -⟩ :=
    simplify_preserves hc his hi samplePlatform
  exact ⟨before, after, hbefore, hafter, hrules⟩

end LogInstance

end Telemetry
