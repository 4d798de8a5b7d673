import Mathlib.Data.List.Dedup
import Telemetry.Proofs.Digest
import Telemetry.Proofs.Run

/-!
# How a compilation for the log engine ends

A configuration that was read should either be compiled, or be refused for what it says: a reference
that is not defined, or two instances with one tag. One more end is possible, and it is a fault of
the program: a parser collides with another.

* **`LogEngine.Proper`** — the ends that a compilation should have.
* **`LogInstance.ParserClash`** — the receiver of one instance needs a parser under its base tag, and
  another instance makes that very name from its own base tag and an end.
* **`LogEngine.compile_proper_iff`** — these clashes are all that leads to another end.
-/

namespace Telemetry

open Failing

/-- The end of a compilation is proper: files, or what the configuration has wrong. -/
inductive LogEngine.Proper : Except CompileError Files → Prop where
  | files (fs : Files) : Proper (.ok fs)
  | undefinedReference (role : Role) (id pipeline : String) :
      Proper (.error (.undefinedReference .logging role id pipeline))
  | tagCollision (tag p r p' r' : String) : Proper (.error (.tagCollision tag p r p' r'))

namespace LogInstance

/-- The parser that the receiver of one instance needs under its base tag bears the name of a parser
of another instance: the one for the time of event-log records, or that of a processor. -/
def ParserClash (i j : LogInstance) : Prop :=
  (∃ transport host port, i.receiver = .configured (.syslog transport host port)) ∧
    (((∃ channels, j.receiver = .configured (.eventLog channels)) ∧
        i.tag.base = j.tag.base ++ ".timestamp_parser") ∨
      ∃ k b, j.simplify.processors[k]? = some b ∧ b.processor.hasParser = true ∧
        i.tag.base = j.tag.base ++ "." ++ Text.decimal k)

/-- Simplifying neither makes nor removes receivers of types that do not expand. -/
theorem simplify_receiver_eq_iff {i : LogInstance} {config : LogReceiverConfig}
    (hi : ∃ config, i.receiver = .configured config)
    (hc : (LogReceiver.configured config).expand? = none) :
    i.simplify.receiver = .configured config ↔ i.receiver = .configured config := by
  obtain ⟨config', hr⟩ := hi
  cases he : i.receiver.expand? with
  | none => rw [simplify_receiver_of_expand?_none hr he]
  | some e =>
      obtain ⟨s, own, rfl, -⟩ := LogReceiver.expand?_expanded he
      obtain ⟨rules, ht⟩ := simplify_receiver_of_expand? he
      constructor
      · intro h
        rw [ht] at h
        exact nomatch h
      · intro h
        rw [h, hc] at he
        exact nomatch he

/-- After simplifying, the receivers with a parser under the base tag are those for syslog. -/
theorem simplify_parsesByTag_iff {i : LogInstance} (hi : ∃ config, i.receiver = .configured config) :
    i.simplify.parsesByTag = true ↔
      ∃ transport host port, i.receiver = .configured (.syslog transport host port) := by
  constructor
  · intro h
    rw [parsesByTag] at h
    split at h
    · rename_i hs
      exact ⟨_, _, _, (simplify_receiver_eq_iff hi rfl).mp hs⟩
    · exact nomatch h
  · rintro ⟨transport, host, port, h⟩
    have hs := (simplify_receiver_eq_iff hi rfl).mpr h
    rw [parsesByTag]
    rw [hs]

/-- After simplifying, the other parsers are those for the time of event-log records and those of
processors. -/
theorem mem_simplify_parserEnds {j : LogInstance} (hj : ∃ config, j.receiver = .configured config)
    {u : String} :
    u ∈ j.simplify.parserEnds ↔
      ((∃ channels, j.receiver = .configured (.eventLog channels)) ∧ u = "timestamp_parser") ∨
        ∃ k b, j.simplify.processors[k]? = some b ∧ b.processor.hasParser = true ∧
          u = Text.decimal k := by
  rw [parserEnds, List.mem_append, mem_numbers]
  refine or_congr ?_ Iff.rfl
  constructor
  · intro h
    split at h
    · rename_i hs
      exact ⟨⟨_, (simplify_receiver_eq_iff hj rfl).mp hs⟩, List.mem_singleton.mp h⟩
    · exact absurd h List.not_mem_nil
  · rintro ⟨⟨channels, h⟩, rfl⟩
    rw [(simplify_receiver_eq_iff hj rfl).mpr h]
    exact List.mem_singleton_self _

/-- The clashes are those of the names that the simplified instances give to their parsers. -/
theorem parserClash_iff {i j : LogInstance} (hi : ∃ config, i.receiver = .configured config)
    (hj : ∃ config, j.receiver = .configured config) :
    i.ParserClash j ↔ i.simplify.parsesByTag = true ∧
      ∃ u ∈ j.simplify.parserEnds, i.tag.base = j.tag.base ++ "." ++ u := by
  rw [ParserClash]
  rw [simplify_parsesByTag_iff hi]
  refine and_congr_right fun _ => ?_
  -- the end of an event log's parser is written with its dot
  have hdot : j.tag.base ++ "." ++ "timestamp_parser" = j.tag.base ++ ".timestamp_parser" := by
    rw [String.append_assoc]
    rfl
  constructor
  · rintro (⟨hchannels, hb⟩ | ⟨k, b, hk, hp, hb⟩)
    · exact ⟨_, (mem_simplify_parserEnds hj).mpr (.inl ⟨hchannels, rfl⟩), hb.trans hdot.symm⟩
    · exact ⟨_, (mem_simplify_parserEnds hj).mpr (.inr ⟨k, b, hk, hp, rfl⟩), hb⟩
  · rintro ⟨u, hu, hb⟩
    rcases (mem_simplify_parserEnds hj).mp hu with ⟨hchannels, rfl⟩ | ⟨k, b, hk, hp, rfl⟩
    · exact .inl ⟨hchannels, hb.trans hdot⟩
    · exact .inr ⟨k, b, hk, hp, hb⟩

/-- **The parsers of simplified instances bear distinct names exactly if none clash.** -/
theorem nodup_parsers_iff_no_clash {is : List LogInstance} (hb : (baseTags is).Nodup)
    (hr : ∀ i ∈ is, ∃ config, i.receiver = .configured config) :
    (is.flatMap (·.simplify.names.parsers)).Nodup ↔ ¬ ∃ i ∈ is, ∃ j ∈ is, i.ParserClash j := by
  have h := nodup_parsers_iff (baseTags_simplify is ▸ hb)
  rw [List.flatMap_map] at h
  exact nodup_iff_no_clash h fun i hi j hj => parserClash_iff (hr i hi) (hr j hj)

end LogInstance

namespace LogEngine

variable {c : Config} {p : Platform} {o : CompileOptions}

/-- Emitted sections can be written where the content hash tells the scripts of the run apart. -/
theorem compile_ok {is : List LogInstance} {own : List (List Section)} {ss : List Section}
    (hparts : Parts c p o is own ss) (hash : HashSeparates (fileContents ss))
    (hemitted : emittedSections c p o = .ok (collected ss)) :
    ∃ files, compile c p o = .ok files := by
  have hin := hparts.inRun_collected
  have hcontents : ∀ text ∈ fileContents (collected ss), text ∈ fileContents ss := by
    intro text ht
    obtain ⟨s, hs, hf⟩ := List.mem_filterMap.mp ht
    rcases mem_collected hs with hs | ⟨d, -, rfl⟩
    · exact List.mem_filterMap.mpr ⟨s, hs, hf⟩
    · -- a parser is no file
      have hk : d.toSection.kind = .parser := Carries.kind_parserDef d
      rw [Section.file?, if_neg (by simp [hk])] at hf
      cases hf
  obtain ⟨files, hfiles⟩ := layout_ok (mainVariables p.buffersDir p.logsDir)
    (fun a ha b hb => hash a (hcontents a ha) b (hcontents b hb))
    (fun s hs name contents => (hin s hs).file_name) fun s hs => (hin s hs).unknownKind?
  refine ⟨files, ?_⟩
  rw [compile_eq]
  exact bind_eq_ok.mpr ⟨collected ss, hemitted, mapError_eq_ok.mpr hfiles⟩

/-- A compilation fails where resolving does, and in the same way. -/
theorem compile_of_unresolved {e : CompileError} (h : c.logInstances .fluentBit = .error e) :
    compile c p o = .error e := by
  rw [compile_eq]
  exact bind_eq_error.mpr (.inl (bind_eq_error.mpr (.inl (sections_eq_error.mpr h))))

/-- Resolved instances are compiled, unless two parsers clash. -/
theorem compile_of_resolved (hc : c.check = .ok ())
    (hash : ∀ ss, sections c p o = .ok ss → HashSeparates (fileContents ss))
    {is : List LogInstance} (h : c.logInstances .fluentBit = .ok is) :
    ((¬ ∃ i ∈ is, ∃ j ∈ is, i.ParserClash j) ∧ ∃ files, compile c p o = .ok files) ∨
    ((∃ i ∈ is, ∃ j ∈ is, i.ParserClash j) ∧
      ∃ name, compile c p o = .error (SectionError.parserCollision name).toCompileError) := by
  obtain ⟨hb, -⟩ := Config.logInstances_eq_ok h
  have hclash := LogInstance.nodup_parsers_iff_no_clash hb (Config.receiver_configured h)
  obtain ⟨own, ss, hparts, hss⟩ := sections_eq_ok (p := p) (o := o) h
  rcases emittedSections_cases hc h hparts hss with ⟨hnodup, hok⟩ | ⟨hdup, name, herr⟩
  · exact .inl ⟨hclash.mp hnodup, compile_ok hparts (hash ss hss) hok⟩
  · refine .inr ⟨?_, name, ?_⟩
    · by_contra hno
      exact hdup (hclash.mpr hno)
    · rw [compile_eq]
      exact bind_eq_error.mpr (.inl herr)

/-- **A compilation ends properly exactly if no parsers clash.** This is for any configuration that
was read, where the content hash tells the scripts of the run apart. The only other end is a
collision that the parser registry reports. -/
theorem compile_proper_iff {text : String} (hread : Config.read text = .ok c)
    (hash : ∀ ss, sections c p o = .ok ss → HashSeparates (fileContents ss)) :
    (Proper (compile c p o) ↔
      ¬ ∃ is, c.logInstances .fluentBit = .ok is ∧ ∃ i ∈ is, ∃ j ∈ is, i.ParserClash j) ∧
    (Proper (compile c p o) ∨
      ∃ name, compile c p o = .error (SectionError.parserCollision name).toCompileError) := by
  have hc := Config.check_of_read hread
  cases his : c.logInstances .fluentBit with
  | error e =>
      have hproper : Proper (compile c p o) := by
        rw [compile_of_unresolved his]
        rcases Config.logInstances_eq_error hc his with
          ⟨role, ref, pipeline, rfl⟩ | ⟨tag, p, r, p', r', rfl⟩
        · exact .undefinedReference role ref pipeline
        · exact .tagCollision tag p r p' r'
      refine ⟨⟨fun _ => ?_, fun _ => hproper⟩, .inl hproper⟩
      rintro ⟨is, h, -⟩
      exact nomatch h
  | ok is =>
      rcases compile_of_resolved hc hash his with ⟨hno, files, hfiles⟩ | ⟨hclash, name, herr⟩
      · have hproper : Proper (compile c p o) := by
          rw [hfiles]
          exact .files files
        refine ⟨⟨fun _ => ?_, fun _ => hproper⟩, .inl hproper⟩
        rintro ⟨is', h, hclash⟩
        obtain rfl := Except.ok.inj h
        exact hno hclash
      · refine ⟨⟨fun h => ?_, fun h => absurd ⟨is, rfl, hclash⟩ h⟩, .inr ⟨name, herr⟩⟩
        rw [herr] at h
        exact nomatch h

/-- Some scripts: those around a parser of messages, the one in front of a parser of a field with a
quotation mark, and the one for the part of a tag which clients write. -/
def sampleScripts : List String :=
  [Script.nest "message", Script.merge, Script.nest "a\"b", Script.addLogName]

/-- How the content hashes of these begin. -/
def sampleHashes : { hashes : List (List Char) //
    sampleScripts.map (fun s => (contentHash s).toList.take 8) = hashes } where
  val := ["3e766e73".toList, "4317d760".toList, "b4aa9178".toList, "59ad4e72".toList]
  property := by
    simp only [sampleScripts, List.map_cons, List.map_nil, toList_contentHash]
    decide +kernel

theorem hashSeparates_sampleScripts : HashSeparates sampleScripts := by
  have hnodup : (sampleScripts.map fun s => (contentHash s).toList.take 8).Nodup := by
    rw [sampleHashes.property]
    decide
  exact fun a ha b hb h => List.inj_on_of_nodup_map hnodup ha hb (by rw [h])

/-- Files that two pipelines read and a syslog receiver; one of the pipelines parses messages. -/
def parsedText : String :=
  "logging:\n receivers:\n  f:\n   type: files\n   include_paths: [/a]\n" ++
    "  s:\n   type: syslog\n   transport_protocol: tcp\n   listen_host: a\n   listen_port: 1\n" ++
    " processors:\n  j:\n   type: parse_json\n" ++
    " service:\n  pipelines:\n   p:\n    receivers: [f, s]\n    processors: [j]\n" ++
    "   q:\n    receivers: [f]\n"

/-- The configuration of `parsedText` is read. Its instances bring three parsers and two scripts, none
of the parsers clash, and the compilation ends properly. -/
theorem compile_proper_iff_parsedText : ∃ c, Config.read parsedText = .ok c ∧
    (∀ ss, sections c samplePlatform {} = .ok ss → HashSeparates (fileContents ss)) ∧
    (∃ ss, sections c samplePlatform {} = .ok ss ∧
      (fileContents ss).dedup = [Script.nest "message", Script.merge]) ∧
    (∃ is, c.logInstances .fluentBit = .ok is ∧ is.map (·.tag.base) = ["p.f", "p.s", "q.f"] ∧
      is.flatMap (·.simplify.names.parsers) = ["p.f.0", "p.s", "p.s.0"] ∧
      ¬ ∃ i ∈ is, ∃ j ∈ is, i.ParserClash j) ∧
    Proper (compile c samplePlatform {}) := by
  have hall : ((Config.read parsedText).toOption.map fun c => decide (
      (c.logInstances .fluentBit).toOption.map (fun is =>
          (is.map (·.tag.base), is.flatMap (·.simplify.names.parsers)))
        = some (["p.f", "p.s", "q.f"], ["p.f.0", "p.s", "p.s.0"]) ∧
      (sections c samplePlatform {}).toOption.map (fun ss => (fileContents ss).dedup)
        = some [Script.nest "message", Script.merge])) = some true := by
    decide +kernel
  obtain ⟨c, hc, hruns⟩ := Option.map_eq_some_iff.mp hall
  have hread := eq_ok_of_toOption hc
  obtain ⟨hinstances, hsections⟩ := of_decide_eq_true hruns
  obtain ⟨is, his, hnames⟩ := Option.map_eq_some_iff.mp hinstances
  obtain ⟨htags, hparsers⟩ := Prod.mk.inj hnames
  obtain ⟨ss, hss, hscripts⟩ := Option.map_eq_some_iff.mp hsections
  replace his := eq_ok_of_toOption his
  replace hss := eq_ok_of_toOption hss
  -- the scripts are among the samples, which the content hash tells apart
  have hsamples : ∀ text ∈ fileContents ss, text ∈ sampleScripts := by
    intro text htext
    rw [← List.mem_dedup, hscripts] at htext
    exact List.cons_subset.mpr ⟨by simp [sampleScripts], by simp [sampleScripts]⟩ htext
  have hash : ∀ ss, sections c samplePlatform {} = .ok ss → HashSeparates (fileContents ss) := by
    intro ss' hss'
    obtain rfl := Except.ok.inj (hss.symm.trans hss')
    exact fun a ha b hb => hashSeparates_sampleScripts a (hsamples a ha) b (hsamples b hb)
  obtain ⟨hb, -⟩ := Config.logInstances_eq_ok his
  have hclash : ¬ ∃ i ∈ is, ∃ j ∈ is, i.ParserClash j := by
    rw [← LogInstance.nodup_parsers_iff_no_clash hb (Config.receiver_configured his), hparsers]
    decide
  refine ⟨c, hread, hash, ⟨ss, hss, hscripts⟩, ⟨is, his, htags, hparsers, hclash⟩, ?_⟩
  refine (compile_proper_iff hread hash).1.mpr ?_
  rintro ⟨is', his', hclash'⟩
  obtain rfl := Except.ok.inj (his.symm.trans his')
  exact hclash hclash'

/-- Two receivers of one pipeline, `r` for files and `r.0` for syslog. The parser of the first
processor behind `r` is called `p.r.0`, and so is the parser of `r.0`. -/
def clashingParsers : Config where
  logging := some {
    receivers := .ofList [
      ("r", .files { includePaths := ["/a.log"] }),
      ("r.0", .syslog "tcp" "0.0.0.0" 5140)]
    processors := .ofList [("json", .parseJson {})]
    pipelines := .ofList [("p", { receivers := ["r", "r.0"], processors := ["json"] })] }

/-- **An accepted configuration can end in a fault of the program.** -/
theorem compile_clashingParsers : clashingParsers.check = .ok () ∧
    compile clashingParsers samplePlatform {}
      = .error (SectionError.parserCollision "p.r.0").toCompileError ∧
    ¬ Proper (compile clashingParsers samplePlatform {}) := by
  have h : compile clashingParsers samplePlatform {}
      = .error (SectionError.parserCollision "p.r.0").toCompileError :=
    eq_error_of_failure? rfl
  refine ⟨by decide +kernel, h, ?_⟩
  rw [h]
  intro hp
  exact nomatch hp

end LogEngine

end Telemetry
