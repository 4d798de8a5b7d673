import Mathlib.Data.List.Infix
import Telemetry.Proofs.Resolve
import Telemetry.Pipeline.Simplify

/-!
# What simplifying leaves

Simplifying changes the receiver and the processors of an instance and nothing else
(**`expand_tag`**, **`simplify_tag`** among other fields). What it leaves is described from both sides:

* **`absorbAll_receiver`**, **`absorbAll_suffix`** — the receiver is the old one or the same tail
  with rules, and the processors are an end of the old list. Where all who join lines have rules,
  at most one processor is missing there (**`absorbAll_cases`**).
* **`expand_plain`**, **`simplify_plain`** — nothing is left that stands for something else, so every
  component has sections of its own.
* **`simplify_receiver_cases`** — in an accepted domain, a receiver for files reads some path, and
  any other is the one that was bound.
* **`expand_processor_cases`** — each processor is a bound one, or reads an application's log.
-/

namespace Telemetry

open Failing

/-! ## Taking over processors -/

/-- Only a tail without rules takes anything over, and only what joins lines. It becomes the same tail
with rules. -/
theorem LogReceiver.absorb?_eq_some {r r' : LogReceiver} {p : LogProcessor} :
    r.absorb? p = some r' ↔ ∃ s gs, r = .tail s [] ∧ p = .configured (.parseMultiline gs) ∧
      r' = .tail s (LineGroup.rules gs) := by
  constructor
  · intro h
    unfold LogReceiver.absorb? at h
    split at h
    · rename_i s
      obtain ⟨rules, hrules, rfl⟩ := Option.map_eq_some_iff.mp h
      unfold LogProcessor.lineRules? at hrules
      split at hrules
      · obtain rfl := Option.some.inj hrules
        exact ⟨s, _, rfl, rfl, rfl⟩
      · exact nomatch hrules
    · exact nomatch h
  · rintro ⟨s, gs, rfl, rfl, rfl⟩
    rfl

/-- The receiver that has taken over processors is the old one, or the same tail with rules. -/
theorem LogReceiver.absorbAll_receiver (r : LogReceiver) (bs : List Binding) :
    (r.absorbAll bs).1 = r ∨ ∃ s rules, r = .tail s [] ∧ (r.absorbAll bs).1 = .tail s rules := by
  induction bs generalizing r with
  | nil => exact .inl rfl
  | cons b bs ih =>
      rw [LogReceiver.absorbAll]
      cases ha : r.absorb? b.processor with
      | none => exact .inl rfl
      | some r' =>
          show (r'.absorbAll bs).1 = r ∨ _
          obtain ⟨s, gs, rfl, -, rfl⟩ := LogReceiver.absorb?_eq_some.mp ha
          rcases ih (.tail s (LineGroup.rules gs)) with h | ⟨s', rules', h, h'⟩
          · exact .inr ⟨s, _, rfl, h⟩
          · obtain ⟨rfl, -⟩ := LogReceiver.tail.inj h
            exact .inr ⟨s, rules', rfl, h'⟩

/-- The processors that are not taken over are an end of the list. -/
theorem LogReceiver.absorbAll_suffix (r : LogReceiver) (bs : List Binding) :
    (r.absorbAll bs).2 <:+ bs := by
  induction bs generalizing r with
  | nil => exact List.suffix_rfl
  | cons b bs ih =>
      rw [LogReceiver.absorbAll]
      cases r.absorb? b.processor with
      | none => exact List.suffix_rfl
      | some r' => exact (ih r').trans (List.suffix_cons b bs)

/-- A receiver takes over the first processor at most: the rules that it has then, if there are some,
keep it from taking more. -/
theorem LogReceiver.absorbAll_cases (r : LogReceiver) {bs : List Binding}
    (hrules : ∀ b ∈ bs, ∀ gs, b.processor = .configured (.parseMultiline gs) →
      LineGroup.rules gs ≠ []) :
    r.absorbAll bs = (r, bs) ∨
      ∃ s id gs rest, r = .tail s [] ∧ bs = ⟨id, .configured (.parseMultiline gs)⟩ :: rest ∧
        LineGroup.rules gs ≠ [] ∧ r.absorbAll bs = (.tail s (LineGroup.rules gs), rest) := by
  cases bs with
  | nil => exact .inl rfl
  | cons b rest =>
      rw [LogReceiver.absorbAll]
      cases ha : r.absorb? b.processor with
      | none => exact .inl rfl
      | some r' =>
          obtain ⟨s, gs, rfl, hb, rfl⟩ := LogReceiver.absorb?_eq_some.mp ha
          have hne : LineGroup.rules gs ≠ [] := hrules b List.mem_cons_self gs hb
          have hstop : (LogReceiver.tail s (LineGroup.rules gs)).absorbAll rest
              = (.tail s (LineGroup.rules gs), rest) := by
            cases rest with
            | nil => rfl
            | cons b' rest =>
                have hnone : (LogReceiver.tail s (LineGroup.rules gs)).absorb? b'.processor = none := by
                  by_contra hsome
                  obtain ⟨r', hr'⟩ := Option.ne_none_iff_exists'.mp hsome
                  obtain ⟨s', -, ht, -, -⟩ := LogReceiver.absorb?_eq_some.mp hr'
                  exact hne (LogReceiver.tail.inj ht).2
                rw [LogReceiver.absorbAll]
                rw [hnone]
          obtain ⟨id, processor⟩ := b
          obtain rfl : processor = .configured (.parseMultiline gs) := hb
          exact .inr ⟨s, id, gs, rest, rfl, rfl, hne, hstop⟩

/-! ## Expanding -/

/-- A receiver expands into a tail without rules, and brings the processors for an application's log
or none. -/
theorem LogReceiver.expand?_expanded {r : LogReceiver} {e : LogReceiver × List LogProcessor}
    (h : r.expand? = some e) :
    ∃ s own, e = (.tail s [], own) ∧ (own = [] ∨ ∃ app, own = LogProcessor.forApp app) := by
  unfold LogReceiver.expand? at h
  split at h
  · obtain rfl := Option.some.inj h
    exact ⟨_, _, rfl, .inl rfl⟩
  · obtain rfl := Option.some.inj h
    exact ⟨_, _, rfl, .inr ⟨_, rfl⟩⟩
  · exact nomatch h

/-- An accepted receiver that expands reads some path: without a default, one is required. -/
theorem LogReceiverConfig.expand?_includePaths {config : LogReceiverConfig} {id : String}
    (hcheck : config.check id = .ok ()) {s : FileSource} {own : List LogProcessor}
    (he : (LogReceiver.configured config).expand? = some (.tail s [], own)) :
    s.includePaths ≠ [] := by
  cases config with
  | files source =>
      obtain rfl : source = s := (LogReceiver.tail.inj (congrArg Prod.fst (Option.some.inj he))).1
      intro hpaths
      rw [LogReceiverConfig.check, FileSource.check, hpaths] at hcheck
      exact nomatch hcheck
  | app a source =>
      obtain ⟨rfl, -⟩ := LogReceiver.tail.inj (congrArg Prod.fst (Option.some.inj he))
      split
      · cases a <;> exact List.cons_ne_nil _ _
      · rename_i hpaths
        simpa using hpaths
  | syslog transport host port => exact nomatch he
  | tcp host port format => exact nomatch he
  | forward host port => exact nomatch he
  | eventLog channels => exact nomatch he

/-- The processors for an application's log do not expand again. -/
theorem LogProcessor.forApp_expand? (app : AppLog) :
    ∀ p ∈ LogProcessor.forApp app, p.expand? = none := by
  cases app <;> simp [forApp, ofApp, expand?]

/-- The processors for an application's log neither apply a built-in parser nor join lines. -/
theorem LogProcessor.forApp_ne {app : AppLog} {p : LogProcessor} (h : p ∈ LogProcessor.forApp app) :
    (∀ name, p ≠ .builtinParser name) ∧ ∀ gs, p ≠ .configured (.parseMultiline gs) := by
  cases app <;> simp only [forApp, ofApp, List.mem_pair] at h <;>
    rcases h with rfl | rfl <;> simp

namespace LogInstance

/-- Nothing in the instance stands for something else. -/
structure Plain (i : LogInstance) : Prop where
  receiver : i.receiver.expand? = none
  processors : ∀ b ∈ i.processors, b.processor.expand? = none

/-- A receiver that does not expand stays. -/
theorem expand_receiver_of_none {i : LogInstance} (h : i.receiver.expand? = none) :
    i.expand.receiver = i.receiver := by
  show (i.receiver.expand?.getD (i.receiver, [])).1 = i.receiver
  rw [h]
  rfl

/-- A receiver that expands is replaced. -/
theorem expand_receiver_of_some {i : LogInstance} {r : LogReceiver} {own : List LogProcessor}
    (h : i.receiver.expand? = some (r, own)) : i.expand.receiver = r := by
  show (i.receiver.expand?.getD (i.receiver, [])).1 = r
  rw [h]
  rfl

/-- A processor of the expanded instance is one of the instance that does not expand, or reads an
application's log. -/
theorem expand_processor_cases {i : LogInstance} {b : Binding} (hb : b ∈ i.expand.processors) :
    (b ∈ i.processors ∧ b.processor.expand? = none) ∨
      ∃ app, b.processor ∈ LogProcessor.forApp app := by
  rcases List.mem_append.mp hb with hown | hbound
  · obtain ⟨p, hp, rfl⟩ := List.mem_map.mp hown
    cases he : i.receiver.expand? with
    | none =>
        rw [he] at hp
        exact nomatch hp
    | some e =>
        rw [he] at hp
        obtain ⟨s, own, rfl, rfl | ⟨app, rfl⟩⟩ := LogReceiver.expand?_expanded he
        · exact nomatch hp
        · exact .inr ⟨app, hp⟩
  · obtain ⟨b', hb', hbe⟩ := List.mem_flatMap.mp hbound
    rw [Binding.expand] at hbe
    cases he : b'.processor.expand? with
    | none =>
        rw [he] at hbe
        obtain rfl := List.mem_singleton.mp hbe
        exact .inl ⟨hb', he⟩
    | some ps =>
        rw [he] at hbe
        obtain ⟨p, hp, rfl⟩ := List.mem_map.mp hbe
        unfold LogProcessor.expand? at he
        split at he
        · obtain rfl := Option.some.inj he
          exact .inr ⟨_, hp⟩
        · exact nomatch he

/-- Expanding adds no built-in parsers, so that those that are applied exist. -/
theorem ResolvedIn.expand_builtin {l : Logging} {engine : LogEngine} {i : LogInstance}
    (h : i.ResolvedIn l engine) {b : Binding} (hb : b ∈ i.expand.processors) {name : String}
    (hp : b.processor = .builtinParser name) : name ∈ ParserDef.builtinNames := by
  rcases expand_processor_cases hb with ⟨hb, -⟩ | ⟨app, happ⟩
  · exact h.builtin hb hp
  · exact absurd hp ((LogProcessor.forApp_ne happ).1 name)

/-- **Expanding once is enough.** -/
theorem expand_plain (i : LogInstance) : i.expand.Plain := by
  refine ⟨?_, ?_⟩
  · cases h : i.receiver.expand? with
    | none =>
        rw [expand_receiver_of_none h]
        exact h
    | some e =>
        obtain ⟨s, own, rfl, -⟩ := LogReceiver.expand?_expanded h
        rw [expand_receiver_of_some h]
        rfl
  · intro b hb
    rcases expand_processor_cases hb with ⟨-, h⟩ | ⟨app, h⟩
    · exact h
    · exact LogProcessor.forApp_expand? app _ h

/-- **Expanding keeps the tag,** because no receiver that expands has clients. -/
@[simp] theorem expand_tag (i : LogInstance) : i.expand.tag = i.tag := by
  have hd : i.expand.receiver.hasDynamicTag = i.receiver.hasDynamicTag := by
    cases he : i.receiver.expand? with
    | none => rw [expand_receiver_of_none he]
    | some e =>
        obtain ⟨s, own, rfl, -⟩ := LogReceiver.expand?_expanded he
        rw [expand_receiver_of_some he]
        unfold LogReceiver.expand? at he
        split at he
        · rename_i h
          rw [h]
          rfl
        · rename_i h
          rw [h]
          rfl
        · exact nomatch he
  unfold LogInstance.tag
  rw [hd]
  rfl

/-! ## Simplifying -/

@[simp] theorem simplify_pipeline (i : LogInstance) : i.simplify.pipeline = i.pipeline := rfl
@[simp] theorem simplify_receiverId (i : LogInstance) : i.simplify.receiverId = i.receiverId := rfl
@[simp] theorem simplify_exporters (i : LogInstance) : i.simplify.exporters = i.exporters := rfl

theorem simplify_receiver (i : LogInstance) :
    i.simplify.receiver = (i.expand.receiver.absorbAll i.expand.processors).1 := rfl
theorem simplify_processors (i : LogInstance) :
    i.simplify.processors = (i.expand.receiver.absorbAll i.expand.processors).2 := rfl

/-- A receiver that does not expand and is no tail stays as it is. -/
theorem simplify_receiver_of_expand?_none {i : LogInstance} {config : LogReceiverConfig}
    (hr : i.receiver = .configured config) (he : i.receiver.expand? = none) :
    i.simplify.receiver = i.receiver := by
  rw [simplify_receiver, expand_receiver_of_none he]
  rcases i.receiver.absorbAll_receiver i.expand.processors with h | ⟨s, rules, ht, -⟩
  · exact h
  · rw [hr] at ht
    exact nomatch ht

/-- A receiver that expands becomes the tail of its expansion, perhaps with rules. -/
theorem simplify_receiver_of_expand? {i : LogInstance} {s : FileSource} {own : List LogProcessor}
    (he : i.receiver.expand? = some (.tail s [], own)) :
    ∃ rules, i.simplify.receiver = .tail s rules := by
  rw [simplify_receiver, expand_receiver_of_some he]
  rcases (LogReceiver.tail s []).absorbAll_receiver i.expand.processors with h | ⟨s', rules, h, h'⟩
  · exact ⟨[], h⟩
  · obtain ⟨rfl, -⟩ := LogReceiver.tail.inj h
    exact ⟨rules, h'⟩

/-- **The receiver of a simplified instance** of an accepted domain is a tail that reads some path,
or the one that was bound. -/
theorem simplify_receiver_cases {l : Logging} (hl : l.Accepted) {engine : LogEngine}
    {i : LogInstance} (h : i.ResolvedIn l engine) :
    (i.receiver.expand? = none ∧ i.simplify.receiver = i.receiver) ∨
      (i.receiver.expand?.isSome ∧
        ∃ s rules, i.simplify.receiver = .tail s rules ∧ s.includePaths ≠ []) := by
  obtain ⟨config, hget, hr⟩ := h.receiver
  cases he : i.receiver.expand? with
  | none => exact .inl ⟨rfl, simplify_receiver_of_expand?_none hr he⟩
  | some e =>
      obtain ⟨s, own, rfl, -⟩ := LogReceiver.expand?_expanded he
      obtain ⟨rules, ht⟩ := simplify_receiver_of_expand? he
      rw [hr] at he
      exact .inr ⟨rfl, s, rules, ht,
        LogReceiverConfig.expand?_includePaths (hl.receivers _ _ hget) he⟩

/-- A tail that simplifying leaves reads some path. -/
theorem simplify_includePaths {l : Logging} (hl : l.Accepted) {engine : LogEngine} {i : LogInstance}
    (h : i.ResolvedIn l engine) {s : FileSource} {rules : List Filter.LineRule}
    (hs : i.simplify.receiver = .tail s rules) : s.includePaths ≠ [] := by
  rcases simplify_receiver_cases hl h with ⟨-, hsame⟩ | ⟨-, s', rules', hs', hpaths⟩
  · obtain ⟨config, -, hr⟩ := h.receiver
    rw [hsame, hr] at hs
    exact nomatch hs
  · rw [hs] at hs'
    obtain ⟨rfl, -⟩ := LogReceiver.tail.inj hs'
    exact hpaths

/-- **Nothing is left that stands for something else.** -/
theorem simplify_plain (i : LogInstance) : i.simplify.Plain := by
  refine ⟨?_, ?_⟩
  · rw [simplify_receiver]
    rcases i.expand.receiver.absorbAll_receiver i.expand.processors with h | ⟨s, rules, -, h⟩
    · rw [h]
      exact i.expand_plain.receiver
    · rw [h]
      rfl
  · intro b hb
    exact i.expand_plain.processors b ((LogReceiver.absorbAll_suffix _ _).mem hb)

/-- **Simplifying keeps the tag.** -/
@[simp] theorem simplify_tag (i : LogInstance) : i.simplify.tag = i.tag := by
  rw [← i.expand_tag, tag, tag, simplify_receiver]
  show Tag.forInstance i.pipeline i.receiverId _ = Tag.forInstance i.pipeline i.receiverId _
  rcases i.expand.receiver.absorbAll_receiver i.expand.processors with h | ⟨s, rules, h, h'⟩
  · rw [h]
  · rw [h', h]
    rfl

/-- Simplifying keeps all base tags. -/
theorem baseTags_simplify (is : List LogInstance) :
    baseTags (is.map (·.simplify)) = baseTags is := by
  simp [baseTags, Function.comp_def]

end LogInstance

end Telemetry
