import Telemetry.Proofs.InstanceTexts
import Telemetry.Proofs.Layout
import Telemetry.Proofs.Routing

/-!
# Files that read back as they were meant

The two section files of a compilation hold the emitted sections, kind by kind. Reading them gives
back just these sections as long as no text that went into them has a line break.

* **`Parts.written`** — every section of a run has lines with plain keys.
* **`Parts.oneLined_iff`** — the sections of a run are one line each exactly if its texts are.
* **`compile_readable`** — the files are read back exactly if the texts are one line each. A text
  with a line break can end a section and begin another: **`compile_smuggledOutput`**.
-/

namespace Telemetry

open Failing

/-! ## Sections of a run -/

/-- A section has lines, and their keys are plain. -/
def Section.Written (s : Section) : Prop :=
  s.lines ≠ [] ∧ s.PlainKeys

theorem Writes.written {t : Tag} {ss : List Section} {texts : List String} (h : Writes t ss texts) :
    ∀ s ∈ ss, s.Written :=
  fun s hs => ⟨(h.addressed s hs).lines, (h.addressed s hs).keys⟩

namespace Writes

open Section (ofFields)

variable {t : Tag}

/-- The section for the engine itself. -/
theorem service (level : String) : Writes t [serviceSection level] [level] := by
  have hk : (serviceSection level).kind = .service := by simp [serviceSection]
  refine single ⟨by simp [hk], by simp [hk], ?_, Section.lines_ne_nil_of_get? "Flush" "1" ?_⟩
    (by simp [hk]) fun _ => ?_
  · simp +decide [serviceSection, ofFields]
  · simp [serviceSection, ofFields]
  · simp +decide [serviceSection, ofFields]

/-- An output writes its expression and how the agent names itself. -/
theorem output (pattern agent : String) (workers : Nat) :
    Writes t [stackdriverOutput pattern agent workers] [pattern, agent] := by
  have hk : (stackdriverOutput pattern agent workers).kind = .output := by simp [stackdriverOutput]
  refine single ⟨by simp [hk], by simp [hk], ?_,
    Section.lines_ne_nil_of_get? "Name" "stackdriver" ?_⟩ (by simp [hk]) fun _ => ?_
  · simp +decide [stackdriverOutput, ofFields]
  · simp [stackdriverOutput, ofFields]
  · simp +decide [stackdriverOutput, ofFields, oneLine_decimal]

/-- The expressions of the built-in parsers are one line. They are compared as lists of characters,
because taking such a long text apart is slow. -/
theorem oneLine_builtin_expression :
    ∀ d ∈ ParserDef.builtins, ∀ e, d.format = .regex e → OneLine e := by
  simp only [ParserDef.builtins, ParserDef.regex, List.forall_mem_cons, ParserFormat.regex.injEq,
    forall_eq', OneLine]
  repeat rw [String.toList_ofList]
  refine ⟨?_, ?_, ?_, ?_, ?_, ?_, ?_, ?_, List.forall_mem_nil _⟩ <;> decide

/-- The built-in parsers say nothing from the configuration. -/
theorem builtins : Writes t (ParserDef.builtins.map ParserDef.toSection) [] := by
  have hnames : ∀ d ∈ ParserDef.builtins, OneLine d.name := by
    decide
  have htimes : ∀ d ∈ ParserDef.builtins,
      ∀ text ∈ d.timeKey.toList ++ d.timeFormat.toList ++ ParserDef.typeTexts d.types,
        OneLine text := by
    decide
  have htexts : ∀ text ∈ ParserDef.builtins.flatMap (·.texts), OneLine text := by
    refine List.forall_mem_flatMap.mpr ?_
    intro d hd
    rw [ParserDef.texts, List.append_assoc, List.append_assoc, ← List.append_assoc d.timeKey.toList]
    refine List.forall_mem_append.mpr ⟨?_, htimes d hd⟩
    cases hf : d.format with
    | json => exact List.forall_mem_nil _
    | regex e => exact List.forall_mem_singleton.mpr (oneLine_builtin_expression d hd e hf)
  rw [List.map_eq_flatMap]
  exact (flatMap fun d hd => parserDef fun _ => hnames d hd).congr
    fun _ => iff_of_true htexts (List.forall_mem_nil _)

end Writes

/-! ## Outputs -/

/-- Escaping adds no line break. -/
theorem oneLine_escape {s : String} (h : OneLine s) : OneLine (Pattern.escape s) := by
  rw [OneLine, Pattern.escape, Text.expandChars, String.toList_ofList]
  intro hm
  obtain ⟨c, hc, hm⟩ := List.mem_flatMap.mp hm
  have hself : '\n' = c := by
    rw [Pattern.escapeChar] at hm
    split at hm <;> simpa using hm
  exact h (hself ▸ hc)

/-- The tag of an instance is matched by an expression of one line if the two ids are one line. -/
theorem oneLine_matchRegex {i : LogInstance} (hp : OneLine i.pipeline) (hr : OneLine i.receiverId) :
    OneLine i.tag.matchRegex := by
  rw [LogInstance.tag]
  cases i.receiver.hasDynamicTag with
  | false => exact oneLine_escape (Tag.clean_forInstance hp hr false).base
  | true =>
      have hinput := (Tag.clean_forInstance hp hr true).input
      have hhead : OneLine (Tag.dynamicHead i.pipeline i.receiverId) :=
        ((oneLine_append _ _).mp hinput).1
      exact (oneLine_append _ _).mpr ⟨oneLine_escape hhead, by decide⟩

/-- The expression for tags that are one line is one line. -/
theorem oneLine_alternation {tags : List Tag} (h : ∀ t ∈ tags, OneLine t.matchRegex) :
    OneLine (Tag.alternation tags) := by
  have hjoin : OneLine (Text.join "|" (tags.map (·.matchRegex))) :=
    (oneLine_join (by decide) _).mpr (List.forall_mem_map.mpr h)
  simp +decide [Tag.alternation, hjoin]

namespace LogEngine

variable {c : Config} {p : Platform} {o : CompileOptions} {is : List LogInstance}
  {own : List (List Section)} {ss : List Section}

/-- The texts that go into the section files of a run. -/
def texts (c : Config) (p : Platform) (o : CompileOptions) (is : List LogInstance) : List String :=
  c.engineLogLevel o.defaultLogLevel :: is.flatMap (·.simplify.texts p)
    ++ if (exporterIds is).isEmpty && !o.selfLogs then [] else [p.userAgent logAgent]

/-- What the sections of all instances write. -/
theorem Parts.oneLined_own (h : Parts c p o is own ss) :
    (∀ s ∈ own.flatten, s.kind ≠ .file → s.OneLined) ↔
      ∀ text ∈ is.flatMap (·.simplify.texts p), OneLine text := by
  have heach := h.each
  clear h
  induction heach with
  | nil => simp
  | cons hpart _ ih =>
      rw [List.flatten_cons, List.flatMap_cons, List.forall_mem_append, List.forall_mem_append]
      exact and_congr (LogInstance.oneLined_iff hpart.1) ih

/-- What the outputs write, for instances whose ids are one line. -/
theorem outputs_writes {is : List LogInstance}
    (h : ∀ i ∈ is, OneLine i.pipeline ∧ OneLine i.receiverId) :
    Writes selfLogTag (outputs p is)
      (if (exporterIds is).isEmpty then [] else [p.userAgent logAgent]) := by
  have hregex : ∀ e, OneLine (Tag.alternation (tagsFor is e)) := by
    intro e
    refine oneLine_alternation ?_
    intro t ht
    obtain ⟨i, hi, -, rfl⟩ := mem_tagsFor.mp ht
    exact oneLine_matchRegex (h i hi).1 (h i hi).2
  rw [outputs, List.map_eq_flatMap]
  refine (Writes.flatMap fun e _ => Writes.output _ _ _).congr fun _ => ?_
  cases exporterIds is with
  | nil => simp
  | cons e es => simp +contextual [hregex, or_imp, forall_and]

/-- What the sections for the agent's own logs write. -/
theorem selfLogSections_writes : Writes selfLogTag (selfLogSections p) [p.userAgent logAgent] := by
  have hconst : ∀ text ∈ selfLogInput.includePaths ++ selfLogInput.excludePaths
      ++ selfLogInput.pathKey.toList, OneLine text := by
    decide
  have hregex : OneLine (Tag.alternation [selfLogTag]) := by
    decide
  refine Writes.congr ((Writes.tail (i := selfLogInput) rfl (by simp [selfLogInput])).append
    (Writes.output _ _ _)) fun _ => ?_
  rw [List.forall_mem_append]
  refine (and_iff_right hconst).trans ?_
  simp [hregex]

namespace Parts

/-- **Every section of a run** has lines with plain keys. -/
theorem written (h : Parts c p o is own ss) : ∀ s ∈ collected ss, s.Written := by
  have hown : ∀ s ∈ own.flatten, s.Written := by
    intro s hs
    obtain ⟨part, hpart, hs⟩ := List.mem_flatten.mp hs
    obtain ⟨i, -, hi⟩ := exists_of_mem_forall₂ h.each hpart
    exact (LogInstance.writes hi.1).written s hs
  have hself : ∀ s ∈ (if o.selfLogs then selfLogSections p else []), s.Written := by
    intro s hs
    split at hs
    · exact selfLogSections_writes.written s hs
    · exact absurd hs List.not_mem_nil
  have houtputs : ∀ s ∈ outputs p (is.map (·.simplify)), s.Written := by
    intro s hs
    obtain ⟨e, -, rfl⟩ := List.mem_map.mp hs
    exact (Writes.output (t := selfLogTag) _ _ _).written _ (List.mem_singleton_self _)
  have hall : ∀ s ∈ ss, s.Written := by
    rw [h.all]
    refine List.forall_mem_append.mpr ⟨List.forall_mem_append.mpr ⟨?_, houtputs⟩, hself⟩
    exact List.forall_mem_cons.mpr ⟨(Writes.service (t := selfLogTag) _).written _
      (List.mem_singleton_self _), hown⟩
  -- collecting adds the built-in parsers that are applied, and nothing else
  intro s hs
  rcases mem_collected hs with hs | ⟨d, hd, rfl⟩
  · exact hall s hs
  · exact (Writes.builtins (t := selfLogTag)).written _ (List.mem_map.mpr ⟨d, hd, rfl⟩)

/-- **The sections of a run are one line each** exactly if its texts are. -/
theorem oneLined_iff (h : Parts c p o is own ss) :
    (∀ s ∈ collected ss, s.kind ≠ .file → s.OneLined) ↔ ∀ text ∈ texts c p o is, OneLine text := by
  have hclean : selfLogTag.Clean := ⟨by decide, by decide, by decide⟩
  have hcollected : (∀ s ∈ collected ss, s.kind ≠ .file → s.OneLined) ↔
      ∀ s ∈ ss, s.kind ≠ .file → s.OneLined := by
    refine ⟨fun h s hs => h s (mem_collected_of_mem hs), fun h s hs => ?_⟩
    rcases mem_collected hs with hs | ⟨d, hd, rfl⟩
    · exact h s hs
    · exact (Writes.builtins.oneLined_iff hclean).mpr (List.forall_mem_nil _) _
        (List.mem_map.mpr ⟨d, hd, rfl⟩)
  have hservice := (Writes.service (c.engineLogLevel o.defaultLogLevel)).oneLined_iff hclean
  rw [List.forall_mem_singleton, List.forall_mem_singleton] at hservice
  have hself : (∀ s ∈ (if o.selfLogs then selfLogSections p else []), s.kind ≠ .file → s.OneLined) ↔
      (o.selfLogs = true → OneLine (p.userAgent logAgent)) := by
    cases o.selfLogs with
    | false => simp
    | true => simpa using selfLogSections_writes.oneLined_iff hclean
  rw [hcollected, h.all, List.forall_mem_append, List.forall_mem_append, List.forall_mem_cons,
    hservice, h.oneLined_own, hself, texts, List.forall_mem_append, List.forall_mem_cons, and_assoc]
  -- what the outputs write is known once the ids are
  refine and_congr_right fun ⟨_, hinstances⟩ => ?_
  have hids : ∀ i ∈ is.map (·.simplify), OneLine i.pipeline ∧ OneLine i.receiverId := by
    refine List.forall_mem_map.mpr ?_
    intro i hi
    have hi' := fun text ht => hinstances text (List.mem_flatMap.mpr ⟨i, hi, ht⟩)
    exact ⟨hi' _ List.mem_cons_self, hi' _ (List.mem_cons_of_mem _ List.mem_cons_self)⟩
  rw [(outputs_writes hids).oneLined_iff hclean, exporterIds_simplify]
  cases (exporterIds is).isEmpty <;> cases o.selfLogs <;> simp

end Parts

/-! ## The two files -/

/-- The sections of some kinds as they should be read. -/
def contents (kinds : List SectionKind) (ss : List Section) :
    List (String × List (String × String)) :=
  (grouped kinds ss).map SectionFile.contentOf

/-- **The section files of a compilation are read back** exactly if all texts that go into them are
one line each. -/
theorem compile_readable {files : Files} (h : compile c p o = .ok files) :
    ∃ is ss body parsers, c.logInstances .fluentBit = .ok is ∧ emittedSections c p o = .ok ss ∧
      (∀ s ∈ ss, s.kind ∈ Section.mainKinds ++ Section.parserKinds ++ [.file]) ∧
      files.get? Section.mainFile = some (Text.unlines
        (Section.variableLines (mainVariables p.buffersDir p.logsDir)) ++ body) ∧
      files.get? Section.parserFile = some parsers ∧
      (SectionFile.read body = some (contents Section.mainKinds ss) ∧
          SectionFile.read parsers = some (contents Section.parserKinds ss) ↔
        ∀ text ∈ texts c p o is, OneLine text) := by
  obtain ⟨is, own, ss, his, hparts, hemitted, hlayout, -, -⟩ := parts_of_compile h
  have hservice : serviceSection (c.engineLogLevel o.defaultLogLevel)
      ∈ grouped Section.mainKinds (collected ss) := by
    refine mem_grouped.mpr ⟨mem_collected_of_mem ?_, List.mem_cons_self⟩
    rw [hparts.all]
    simp
  obtain ⟨hmain, hparsers⟩ := get?_layout hlayout (List.ne_nil_of_mem hservice)
  refine ⟨is, collected ss, _, _, his, hemitted, hparts.kind_mem, hmain, hparsers, ?_⟩
  have hwritable : ∀ kinds, (∀ kind ∈ kinds, OneLine kind.name) →
      ∀ s ∈ grouped kinds (collected ss), SectionFile.Writable s := by
    intro kinds hkinds s hs
    obtain ⟨hs, hk⟩ := mem_grouped.mp hs
    exact ⟨hkinds _ hk, (hparts.written s hs).1, (hparts.written s hs).2⟩
  rw [contents, contents, SectionFile.read_iff (hwritable _ (by decide)),
    SectionFile.read_iff (hwritable _ (by decide)), ← hparts.oneLined_iff]
  -- a section that is no file is written into one of the two files, by its kind
  constructor
  · rintro ⟨hm, hp⟩ s hs hk
    rcases List.mem_append.mp (hparts.kind_mem s hs) with hkind | hkind
    · rcases List.mem_append.mp hkind with hkind | hkind
      · exact hm s (mem_grouped.mpr ⟨hs, hkind⟩)
      · exact hp s (mem_grouped.mpr ⟨hs, hkind⟩)
    · exact absurd (List.mem_singleton.mp hkind) hk
  · intro hall
    have hof : ∀ kinds, .file ∉ kinds → ∀ s ∈ grouped kinds (collected ss), s.OneLined := by
      intro kinds hfile s hs
      obtain ⟨hs, hk⟩ := mem_grouped.mp hs
      exact hall s hs fun he => hfile (he ▸ hk)
    exact ⟨hof _ (by decide), hof _ (by decide)⟩

/-- Files, with an expression and with texts for fields from the configuration. -/
def readLogs : Config where
  logging := some {
    receivers := .ofList [
      ("own", .files { includePaths := ["/a.log", "/b.log"], excludePaths := ["/c.log"] })]
    processors := .ofList [
      ("drop", .excludeLogs [⟨"level", "debug|trace"⟩]),
      ("mark", .modifyFields { fields := .ofList [("team", { staticValue := some "[A] b" })] })]
    exporters := .ofList [("x", .googleCloudLogging)]
    pipelines := .ofList [
      ("p", { receivers := ["own"], processors := ["drop", "mark"], exporters := ["x"] })] }

/-- The files for `readLogs` are read back. -/
theorem compile_readable_readLogs :
    ∃ files, compile readLogs samplePlatform { selfLogs := true } = .ok files ∧
      ∃ ss body parsers, emittedSections readLogs samplePlatform { selfLogs := true } = .ok ss ∧
        files.get? Section.mainFile = some (Text.unlines (Section.variableLines
          (mainVariables samplePlatform.buffersDir samplePlatform.logsDir)) ++ body) ∧
        files.get? Section.parserFile = some parsers ∧
        SectionFile.read body = some (contents Section.mainKinds ss) ∧
        SectionFile.read parsers = some (contents Section.parserKinds ss) := by
  obtain ⟨files, h⟩ :
      ∃ files, compile readLogs samplePlatform { selfLogs := true } = .ok files :=
    exists_of_isOk rfl
  obtain ⟨is, ss, body, parsers, his, hss, -, hbody, hparsers, hiff⟩ := compile_readable h
  have htexts : (readLogs.logInstances .fluentBit).map (fun is =>
      decide (∀ text ∈ texts readLogs samplePlatform { selfLogs := true } is, OneLine text))
      = .ok true := by
    rfl
  obtain ⟨hm, hp⟩ := hiff.mpr (of_map_decide his htexts)
  exact ⟨files, h, ss, body, parsers, hss, hbody, hparsers, hm, hp⟩

/-- A path with line breaks, behind which an output stands. -/
def smuggledOutput : Config where
  logging := some {
    receivers := .ofList [
      ("r", .files { includePaths :=
        ["/a.log\n[OUTPUT]\n    Name            null\n    Match           *"] })]
    pipelines := .ofList [("p", { receivers := ["r"] })] }

/-- **A path can change what is read** from the main file for an accepted configuration. -/
theorem compile_smuggledOutput : smuggledOutput.check = .ok () ∧
    ∃ files ss body, compile smuggledOutput samplePlatform {} = .ok files ∧
      emittedSections smuggledOutput samplePlatform {} = .ok ss ∧
      files.get? Section.mainFile = some (Text.unlines (Section.variableLines
        (mainVariables samplePlatform.buffersDir samplePlatform.logsDir)) ++ body) ∧
      SectionFile.read body ≠ some (contents Section.mainKinds ss) := by
  refine ⟨rfl, ?_⟩
  obtain ⟨files, h⟩ : ∃ files, compile smuggledOutput samplePlatform {} = .ok files :=
    exists_of_isOk rfl
  have hc := h
  rw [compile_eq] at hc
  obtain ⟨ss, hss, hlayout⟩ := bind_eq_ok.mp hc
  -- the emitted input has the path, which no reader of lines gives back
  have hpath : (emittedSections smuggledOutput samplePlatform {}).map (fun ss =>
      decide (∃ s ∈ grouped Section.mainKinds ss, ∃ l ∈ s.lines, ¬ OneLine l.2)) = .ok true := by
    rfl
  obtain ⟨s, hs, l, hl, hline⟩ := of_map_decide hss hpath
  have hmain := (get?_layout (mapError_eq_ok.mp hlayout) (List.ne_nil_of_mem hs)).1
  refine ⟨files, ss, _, h, hss, hmain, fun hread => ?_⟩
  exact hline (SectionFile.oneLine_of_read hread _ (List.mem_map.mpr ⟨s, hs, rfl⟩) l hl)

end LogEngine

end Telemetry
