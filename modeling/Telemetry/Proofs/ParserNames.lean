import Telemetry.Proofs.Run

/-!
# Parsers are found by their names

The log engine finds parsers by name, so a name should stand for one parser, and each use of a name
should have its parser in the same instance or among the built-in ones. For parsers this holds of
every compilation that gives files. The names of line-joining parsers pass no registry, and one of
them can come twice.

* **`ParsersFound`**, **`LineParsersFound`** — names are distinct, and each use has its definition.
* **`LogInstance.LineParserClash`** — a receiver that joins lines has a parser under its base tag, and
  a processor of another instance makes that very name from its base tag and its number.
* **`compile_parsers_found`** — both hold of a compilation, the second exactly if none clash.
-/

namespace Telemetry

open Failing

/-! ## Instances -/

namespace LogInstance

/-- The line-joining parser of one instance's receiver bears the name of that of a processor of
another instance. -/
def LineParserClash (i j : LogInstance) : Prop :=
  (∃ s rules, i.simplify.receiver = .tail s rules ∧ rules ≠ []) ∧
    ∃ k b, j.simplify.processors[k]? = some b ∧ b.processor.lineRules?.isSome = true ∧
      i.tag.base = j.tag.base ++ "." ++ Text.decimal k

theorem joinsInput_iff {i : LogInstance} :
    i.joinsInput = true ↔ ∃ s rules, i.receiver = .tail s rules ∧ rules ≠ [] := by
  rw [joinsInput]
  cases i.receiver with
  | configured config =>
      constructor
      · intro h
        exact nomatch h
      · rintro ⟨s, rules, h, -⟩
        exact nomatch h
  | tail s rules =>
      cases rules with
      | nil =>
          constructor
          · intro h
            exact nomatch h
          · rintro ⟨s', rules', h, hne⟩
            obtain ⟨-, rfl⟩ := LogReceiver.tail.inj h
            exact absurd rfl hne
      | cons rule rules => exact ⟨fun _ => ⟨s, rule :: rules, rfl, by simp⟩, fun _ => rfl⟩

/-- The clashes are those of the names that the simplified instances give. -/
theorem lineParserClash_iff {i j : LogInstance} :
    i.LineParserClash j ↔ i.simplify.joinsInput = true ∧
      ∃ u ∈ j.simplify.lineParserEnds, i.tag.base = j.tag.base ++ "." ++ u := by
  rw [LineParserClash, lineParserEnds]
  rw [joinsInput_iff]
  refine and_congr_right fun _ => ?_
  constructor
  · rintro ⟨k, b, hk, hq, he⟩
    exact ⟨_, mem_numbers.mpr ⟨k, b, hk, hq, rfl⟩, he⟩
  · rintro ⟨u, hu, he⟩
    obtain ⟨k, b, hk, hq, rfl⟩ := mem_numbers.mp hu
    exact ⟨k, b, hk, hq, he⟩

/-- **The line-joining parsers of simplified instances bear distinct names exactly if none clash.** -/
theorem nodup_lineParsers_iff_no_clash {is : List LogInstance} (hb : (baseTags is).Nodup) :
    (is.flatMap (·.simplify.names.lineParsers)).Nodup ↔
      ¬ ∃ i ∈ is, ∃ j ∈ is, i.LineParserClash j := by
  have h := nodup_lineParsers_iff (baseTags_simplify is ▸ hb)
  rw [List.flatMap_map] at h
  exact nodup_iff_no_clash h fun i _ j _ => lineParserClash_iff

/-- A bound instance uses parsers of its own or built-in ones, after simplifying too. -/
theorem simplify_parserUses {l : Logging} {engine : LogEngine} {i : LogInstance}
    (h : i.ResolvedIn l engine) {n : String} (hn : n ∈ i.simplify.names.parserUses) :
    n ∈ ParserDef.builtinNames ∨ n ∈ i.simplify.names.parsers := by
  rcases parserUses_defined hn with hn | ⟨b, hb, hp⟩
  · exact .inr hn
  · exact .inl (h.expand_builtin ((LogReceiver.absorbAll_suffix _ _).mem hb) hp)

end LogInstance

/-! ## Compilations -/

/-- The parsers among some sections have distinct names, and what a part of the sections uses is
defined once, in that part or by a built-in parser. -/
structure ParsersFound (parts : List (List Section)) (ss : List Section) : Prop where
  distinct : (namesIn ss).parsers.Nodup
  found : ∀ part ∈ parts, ∀ n ∈ (namesIn part).parserUses,
    (namesIn ss).parsers.count n = 1 ∧
      (n ∈ ParserDef.builtinNames ∨ n ∈ (namesIn part).parsers)

/-- The line-joining parsers among some sections have distinct names, and what a part of the sections
uses is defined once, in that part. -/
structure LineParsersFound (parts : List (List Section)) (ss : List Section) : Prop where
  distinct : (namesIn ss).lineParsers.Nodup
  found : ∀ part ∈ parts, ∀ n ∈ (namesIn part).lineParserUses,
    (namesIn ss).lineParsers.count n = 1 ∧ n ∈ (namesIn part).lineParsers

namespace LogEngine

variable {c : Config} {p : Platform} {o : CompileOptions}

variable {is : List LogInstance} {own : List (List Section)} {ss : List Section}

/-- **Parsers are found** where no two in the run share a name. -/
theorem Parts.parsersFound (h : Parts c p o is own ss) (his : c.logInstances .fluentBit = .ok is)
    (hproper : ∀ n ∈ (namesIn ss).parsers, n ≠ "" ∧ isReserved n = false)
    (hnodup : (namesIn ss).parsers.Nodup) : ParsersFound own (collected ss) := by
  obtain ⟨-, hbound⟩ := Config.logInstances_eq_ok his
  have hparsers : (namesIn (collected ss)).parsers
      = ParserDef.builtinNames ++ is.flatMap (·.simplify.names.parsers) := by
    rw [h.namesIn_written]
  -- the names of built-in parsers are reserved, and those of the run are not
  have hdistinct : (namesIn (collected ss)).parsers.Nodup := by
    rw [hparsers, ← h.parsers_eq]
    refine List.nodup_append.mpr ⟨ParserDef.builtinNames_nodup, hnodup, ?_⟩
    rintro n hbuiltin _ hn rfl
    have hr := ParserDef.isReserved_of_mem_builtinNames n hbuiltin
    rw [(hproper n hn).2] at hr
    exact Bool.noConfusion hr
  refine ⟨hdistinct, ?_⟩
  intro part hmem n hn
  obtain ⟨i, hi, hnames⟩ := h.namesIn_part part hmem
  obtain ⟨l, -, hl⟩ := hbound i hi
  rw [hnames] at hn ⊢
  have hor := LogInstance.simplify_parserUses hl hn
  refine ⟨List.count_eq_one_of_mem hdistinct ?_, hor⟩
  rw [hparsers]
  rcases hor with hbuiltin | hown
  · exact List.mem_append_left _ hbuiltin
  · exact List.mem_append_right _ (List.mem_flatMap.mpr ⟨i, hi, hown⟩)

/-- **Line-joining parsers are found** exactly if none clash. -/
theorem Parts.lineParsersFound_iff (h : Parts c p o is own ss) (hb : (baseTags is).Nodup) :
    LineParsersFound own (collected ss) ↔ ¬ ∃ i ∈ is, ∃ j ∈ is, i.LineParserClash j := by
  have hlineParsers : (namesIn (collected ss)).lineParsers
      = is.flatMap (·.simplify.names.lineParsers) := by
    rw [h.namesIn_written]
  rw [← LogInstance.nodup_lineParsers_iff_no_clash hb, ← hlineParsers]
  constructor
  · exact fun hfound => hfound.distinct
  · intro hdistinct
    refine ⟨hdistinct, ?_⟩
    intro part hmem n hn
    obtain ⟨i, hi, hnames⟩ := h.namesIn_part part hmem
    rw [hnames] at hn ⊢
    have hown := LogInstance.lineParserUses_defined hn
    refine ⟨List.count_eq_one_of_mem hdistinct ?_, hown⟩
    rw [hlineParsers]
    exact List.mem_flatMap.mpr ⟨i, hi, hown⟩

/-- **What a compilation that gives files makes of the names of parsers.** All uses are in the
sections of instances. Parsers are found. Line-joining parsers are found exactly if none clash. -/
theorem compile_parsers_found {files : Files} (h : compile c p o = .ok files) :
    ∃ is own ss, c.logInstances .fluentBit = .ok is ∧
      List.Forall₂ (fun i part => i.simplify.sections p = .ok part) is own ∧
      emittedSections c p o = .ok ss ∧
      Section.layout (mainVariables p.buffersDir p.logsDir) ss = .ok files ∧
      (∀ part ∈ own, part ⊆ ss) ∧
      (namesIn ss).parserUses = own.flatMap (fun part => (namesIn part).parserUses) ∧
      (namesIn ss).lineParserUses = own.flatMap (fun part => (namesIn part).lineParserUses) ∧
      ParsersFound own ss ∧
      (LineParsersFound own ss ↔ ¬ ∃ i ∈ is, ∃ j ∈ is, i.LineParserClash j) := by
  obtain ⟨is, own, ss, his, hparts, hemitted, hlayout, hproper, hnodup⟩ := parts_of_compile h
  obtain ⟨hb, -⟩ := Config.logInstances_eq_ok his
  have hsections := hparts.each.imp fun _ _ hpart => hpart.1
  have huses : (namesIn (collected ss)).parserUses
      = own.flatMap fun part => (namesIn part).parserUses := by
    rw [hparts.namesIn_written, hparts.flatMap_namesIn (·.parserUses)]
  have hlineUses : (namesIn (collected ss)).lineParserUses
      = own.flatMap fun part => (namesIn part).lineParserUses := by
    rw [hparts.namesIn_written, hparts.flatMap_namesIn (·.lineParserUses)]
  exact ⟨is, own, collected ss, his, hsections, hemitted, hlayout, hparts.part_subset, huses,
    hlineUses, hparts.parsersFound his hproper hnodup, hparts.lineParsersFound_iff hb⟩

/-- A receiver for files, which takes over the line rules of the first processor, and one for syslog,
which does not. -/
def joinedLines : Config where
  logging := some {
    receivers := .ofList [
      ("r", .files { includePaths := ["/a.log"] }),
      ("s", .syslog "tcp" "0.0.0.0" 5140)]
    processors := .ofList [("lines", .parseMultiline [⟨"language_exceptions", "java"⟩])]
    pipelines := .ofList [("p", { receivers := ["r", "s"], processors := ["lines", "lib:nginx"] })] }

/-- The names of the parsers of `joinedLines`. -/
theorem compile_parsers_found_joinedLines :
    ∃ files, compile joinedLines samplePlatform {} = .ok files ∧
      ∃ is own ss, joinedLines.logInstances .fluentBit = .ok is ∧
        emittedSections joinedLines samplePlatform {} = .ok ss ∧ ParsersFound own ss ∧
        (LineParsersFound own ss ↔ ¬ ∃ i ∈ is, ∃ j ∈ is, i.LineParserClash j) := by
  obtain ⟨files, h⟩ : ∃ files, compile joinedLines samplePlatform {} = .ok files :=
    exists_of_isOk rfl
  obtain ⟨is, own, ss, his, -, hss, -, -, -, -, hfound, hline⟩ := compile_parsers_found h
  exact ⟨files, h, is, own, ss, his, hss, hfound, hline⟩

/-- Two receivers of one pipeline, `r` for syslog and `r.0` for files. The line-joining parser of the
first processor behind `r` is called `multiline.p.r.0`, and so is that of `r.0`. -/
def clashingLineParsers : Config where
  logging := some {
    receivers := .ofList [
      ("r", .syslog "tcp" "0.0.0.0" 5140),
      ("r.0", .files { includePaths := ["/a.log"] })]
    processors := .ofList [("lines", .parseMultiline [⟨"language_exceptions", "java"⟩])]
    pipelines := .ofList [("p", { receivers := ["r", "r.0"], processors := ["lines"] })] }

/-- **One name can stand for two line-joining parsers** in the files for an accepted
configuration. -/
theorem compile_clashingLineParsers : clashingLineParsers.check = .ok () ∧
    (∃ files, compile clashingLineParsers samplePlatform {} = .ok files) ∧
    ∃ ss, emittedSections clashingLineParsers samplePlatform {} = .ok ss ∧
      (namesIn ss).lineParsers = ["multiline.p.r.0", "multiline.p.r.0"] := by
  refine ⟨rfl, exists_of_isOk rfl, ?_⟩
  have h : (emittedSections clashingLineParsers samplePlatform {}).map (fun ss =>
      (namesIn ss).lineParsers) = .ok ["multiline.p.r.0", "multiline.p.r.0"] := by
    rfl
  exact map_eq_ok.mp h

end LogEngine

end Telemetry
