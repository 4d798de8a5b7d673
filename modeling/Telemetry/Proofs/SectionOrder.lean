import Telemetry.Proofs.Layout

/-!
# The order of sections

Sections are built instance by instance, their parsers are collected, and they are written kind by
kind. In spite of these passes, the order in which sections of one kind come is that in which the
instances were resolved, and within an instance that of its list:

* **`ofKind`** — the sections of one kind among those of all instances.
* **`Parts.grouped_mainKinds`**, **`Parts.grouped_parserKinds`** — what is written kind by kind.
* **`compile_order`** — the files of a compilation: which sections the two section files have and in
  which order, that each section is written once, and which other files there are.
-/

namespace Telemetry

open Failing

/-- The name of a script is that of no section file. -/
theorem Script.fileName_ne {script file : String} (h : file.toList.getLast? = some 'f') :
    Script.fileName script ≠ file := by
  intro he
  have hlast : (Script.fileName script).toList.getLast? = some 'a' := by
    simp [Script.fileName]
  rw [he, h] at hlast
  exact absurd hlast (by decide)

namespace LogEngine

/-- The sections of one kind among those of all instances, in the order of the instances. -/
def ofKind (kind : SectionKind) (own : List (List Section)) : List Section :=
  own.flatMap fun part => part.filter (·.kind = kind)

/-- The sections of the main file, in order. -/
def mainSections (c : Config) (p : Platform) (o : CompileOptions) (is : List LogInstance)
    (own : List (List Section)) : List Section :=
  serviceSection (c.engineLogLevel o.defaultLogLevel)
    :: ofKind .input own ++ (if o.selfLogs then (selfLogInput.section? selfLogTag).toList else [])
    ++ ofKind .filter own
    ++ outputs p (is.map (·.simplify)) ++ (if o.selfLogs then [outputFor p [selfLogTag]] else [])

/-- The sections of the parser file, in order. -/
def parserSections (own : List (List Section)) : List Section :=
  ParserDef.builtins.map ParserDef.toSection ++ ofKind .parser own ++ ofKind .multilineParser own

variable {c : Config} {p : Platform} {o : CompileOptions} {is : List LogInstance}
  {own : List (List Section)} {ss : List Section}

theorem ofKind_eq (kind : SectionKind) (own : List (List Section)) :
    ofKind kind own = own.flatten.filter (·.kind = kind) := by
  rw [ofKind, List.filter_flatten, List.flatMap_def]

/-- The sections for the agent's own logs are an input and an output. -/
theorem filter_selfLogSections (p : Platform) (k : SectionKind) :
    (selfLogSections p).filter (·.kind = k)
      = (if SectionKind.input = k then (selfLogInput.section? selfLogTag).toList else [])
        ++ (if SectionKind.output = k then [outputFor p [selfLogTag]] else []) := by
  have hinput : ∀ s ∈ (selfLogInput.section? selfLogTag).toList, s.kind = .input := by
    decide
  have houtput : ∀ s ∈ [outputFor p [selfLogTag]], s.kind = .output :=
    List.forall_mem_singleton.mpr rfl
  rw [selfLogSections, List.filter_append, Section.filter_kind_of_forall hinput,
    Section.filter_kind_of_forall houtput]

namespace Parts

/-- The instances bring no sections for the service and no outputs. -/
theorem ofKind_eq_nil (h : Parts c p o is own ss) {kind : SectionKind}
    (hk : kind = .service ∨ kind = .output) : ofKind kind own = [] := by
  rw [ofKind_eq]
  refine Section.filter_kind_eq_nil ?_
  intro s hs
  have hregular := (h.carries.regular s hs).kind
  rcases hk with rfl | rfl <;> rcases hregular with hr | hr | hr | hr | hr <;> simp [hr]

/-- The sections of one kind, before parsers are collected. -/
theorem filter_kind (h : Parts c p o is own ss) (k : SectionKind) :
    ss.filter (·.kind = k)
      = (if SectionKind.service = k then [serviceSection (c.engineLogLevel o.defaultLogLevel)]
          else [])
        ++ ofKind k own
        ++ (if SectionKind.output = k then outputs p (is.map (·.simplify)) else [])
        ++ (if o.selfLogs then (selfLogSections p).filter (·.kind = k) else []) := by
  have hservice : ∀ s ∈ [serviceSection (c.engineLogLevel o.defaultLogLevel)],
      s.kind = .service := List.forall_mem_singleton.mpr rfl
  have houtputs : ∀ s ∈ outputs p (is.map (·.simplify)), s.kind = .output := by
    intro s hs
    obtain ⟨e, -, rfl⟩ := List.mem_map.mp hs
    rfl
  rw [h.all, ← List.singleton_append, List.filter_append, List.filter_append, List.filter_append,
    Section.filter_kind_of_forall hservice, Section.filter_kind_of_forall houtputs, ← ofKind_eq]
  cases o.selfLogs <;> rfl

/-- The sections of one kind that are written. Collecting the parsers leaves the sections of other
kinds in their order. -/
theorem filter_kind_collected (h : Parts c p o is own ss) {k : SectionKind} (hk : k ≠ .parser) :
    (collected ss).filter (·.kind = k)
      = (if SectionKind.service = k then [serviceSection (c.engineLogLevel o.defaultLogLevel)]
          else [])
        ++ ofKind k own
        ++ (if SectionKind.output = k then outputs p (is.map (·.simplify)) else [])
        ++ (if o.selfLogs then (selfLogSections p).filter (·.kind = k) else []) := by
  rw [filter_collected, h.filter_kind]
  intro s hs
  simp [hs, Ne.symm hk]

/-- The parsers that are written: behind the built-in ones, those of the instances. -/
theorem filter_parser_collected (h : Parts c p o is own ss) :
    (collected ss).filter (·.kind = .parser)
      = ParserDef.builtins.map ParserDef.toSection ++ ofKind .parser own := by
  have hbuiltins : ∀ s ∈ ParserDef.builtins.map ParserDef.toSection, s.kind = .parser := by
    intro s hs
    obtain ⟨d, -, rfl⟩ := List.mem_map.mp hs
    exact Carries.kind_parserDef d
  have hothers : (ss.filter fun s => !s.isParser).filter (·.kind = .parser) = [] := by
    refine Section.filter_kind_eq_nil ?_
    intro s hs
    simpa [Section.isParser] using (List.mem_filter.mp hs).2
  have hparsers : (ss.filter (·.isParser)).filter (·.kind = .parser)
      = ss.filter (·.kind = .parser) := by
    rw [List.filter_filter]
    refine List.filter_congr ?_
    intro s _
    simp [Section.isParser]
  rw [collected, List.filter_append, List.filter_append, hothers, hparsers,
    Section.filter_kind_of_forall hbuiltins, h.filter_kind, filter_selfLogSections]
  cases o.selfLogs <;> simp

/-- The filters that are written are those of the instances. -/
theorem filters_eq (h : Parts c p o is own ss) :
    (collected ss).filter (·.kind = .filter) = own.flatten.filter (·.kind = .filter) := by
  have hk := h.filter_kind_collected (k := .filter) (by decide)
  rw [filter_selfLogSections, ofKind_eq] at hk
  simpa using hk

/-- **What is written into the main file,** kind by kind. -/
theorem grouped_mainKinds (h : Parts c p o is own ss) :
    grouped Section.mainKinds (collected ss) = mainSections c p o is own := by
  have hservice := h.filter_kind_collected (k := .service) (by decide)
  have hinput := h.filter_kind_collected (k := .input) (by decide)
  have hfilter := h.filter_kind_collected (k := .filter) (by decide)
  have houtput := h.filter_kind_collected (k := .output) (by decide)
  rw [h.ofKind_eq_nil (.inl rfl), filter_selfLogSections] at hservice
  rw [filter_selfLogSections] at hinput hfilter
  rw [h.ofKind_eq_nil (.inr rfl), filter_selfLogSections] at houtput
  show (collected ss).filter _ ++ ((collected ss).filter _ ++ ((collected ss).filter _
    ++ ((collected ss).filter _ ++ []))) = _
  rw [hservice, hinput, hfilter, houtput, mainSections]
  cases o.selfLogs <;> simp

/-- **What is written into the parser file,** kind by kind. -/
theorem grouped_parserKinds (h : Parts c p o is own ss) :
    grouped Section.parserKinds (collected ss) = parserSections own := by
  have hlines := h.filter_kind_collected (k := .multilineParser) (by decide)
  rw [filter_selfLogSections] at hlines
  show (collected ss).filter _ ++ ((collected ss).filter _ ++ []) = _
  rw [h.filter_parser_collected, hlines, parserSections]
  cases o.selfLogs <;> simp

/-- The files that sections of a run stand for are those of its instances. -/
theorem filterMap_file? (h : Parts c p o is own ss) :
    (collected ss).filterMap Section.file? = own.flatten.filterMap Section.file? := by
  have hkind : ∀ l : List Section,
      l.filterMap Section.file? = (l.filter (·.kind = .file)).filterMap Section.file? := by
    intro l
    rw [List.filterMap_filter]
    refine List.filterMap_congr ?_
    intro s _
    by_cases hk : s.kind = .file <;> simp [Section.file?, hk]
  have hfiles := h.filter_kind_collected (k := .file) (by decide)
  rw [filter_selfLogSections, ofKind_eq] at hfiles
  rw [hkind, hfiles, hkind own.flatten]
  cases o.selfLogs <;> simp

/-- **Each section is written once,** but for those that stand for files of their own. -/
theorem written_perm (h : Parts c p o is own ss) :
    (mainSections c p o is own ++ parserSections own).Perm
      ((collected ss).filter (·.kind ≠ .file)) := by
  rw [← h.grouped_mainKinds, ← h.grouped_parserKinds, ← grouped_append]
  have hkinds : ∀ kind ∈ Section.mainKinds ++ Section.parserKinds ++ [.file],
      decide (kind ∈ Section.mainKinds ++ Section.parserKinds) = decide (kind ≠ .file) := by
    decide
  rw [← List.filter_congr fun s hs => hkinds _ (h.kind_mem s hs)]
  exact grouped_perm (by decide) _

/-- The files of the instances are scripts, under none of the names of the two section files. -/
theorem file_name_ne (h : Parts c p o is own ss) {name contents : String}
    (hf : (name, contents) ∈ own.flatten.filterMap Section.file?) :
    name ≠ Section.mainFile ∧ name ≠ Section.parserFile := by
  obtain ⟨s, hs, hfile⟩ := List.mem_filterMap.mp hf
  rw [(h.carries.regular s hs).file name contents hfile]
  exact ⟨Script.fileName_ne (by decide), Script.fileName_ne (by decide)⟩

end Parts

/-- Collecting adds the built-in parsers and loses nothing. -/
theorem collected_perm (ss : List Section) :
    (collected ss).Perm (ParserDef.builtins.map ParserDef.toSection ++ ss) := by
  have hsplit := List.filter_append_perm (fun s : Section => !s.isParser) ss
  simp only [Bool.not_not] at hsplit
  exact (List.perm_append_comm_assoc _ _ _).trans (hsplit.append_left _)

/-- **The order of sections in the files of a compilation.** The sections that are emitted are those
of the instances, one for the service, the outputs, those for the agent's own logs, and the built-in
parsers. Each of them is written once, in the main file or in the parser file, but for those that
stand for files. Both files have the sections of the instances kind by kind, in the order of the
instances. The other files are those that sections of the instances stand for, each once. -/
theorem compile_order {files : Files} (h : compile c p o = .ok files) :
    ∃ is own ss, c.logInstances .fluentBit = .ok is ∧
      List.Forall₂ (fun i part => i.simplify.sections p = .ok part) is own ∧
      emittedSections c p o = .ok ss ∧
      ss.Perm (ParserDef.builtins.map ParserDef.toSection
        ++ (serviceSection (c.engineLogLevel o.defaultLogLevel) :: own.flatten
          ++ outputs p (is.map (·.simplify)) ++ if o.selfLogs then selfLogSections p else [])) ∧
      (mainSections c p o is own ++ parserSections own).Perm (ss.filter (·.kind ≠ .file)) ∧
      files.entries.Perm (
        (Section.mainFile, Text.join "\n"
          (Section.variableLines (mainVariables p.buffersDir p.logsDir)
            ++ (mainSections c p o is own).map Section.render))
        :: (Section.parserFile, Text.join "\n" ((parserSections own).map Section.render))
        :: (own.flatten.filterMap Section.file?).dedup) := by
  obtain ⟨is, own, ss, his, hparts, hemitted, hlayout, -, -⟩ := parts_of_compile h
  refine ⟨is, own, collected ss, his, hparts.each.imp fun _ _ h => h.1, hemitted,
    hparts.all ▸ collected_perm ss, hparts.written_perm, ?_⟩
  obtain ⟨others, hothers, rfl⟩ := layout_eq_ok hlayout
  have hentries := Section.entries_foldlM_addFile hothers
  rw [hparts.filterMap_file?] at hentries
  have hfresh : ∀ name, name = Section.mainFile ∨ name = Section.parserFile →
      others.get? name = none := by
    intro name hname
    by_contra hsome
    obtain ⟨contents, hget⟩ := Option.ne_none_iff_exists'.mp hsome
    have hmem := hentries.mem_iff.mp (Keyed.mem_entries_iff.mpr hget)
    obtain ⟨hmain, hparser⟩ := hparts.file_name_ne (List.mem_dedup.mp hmem)
    exact hname.elim hmain hparser
  rw [hparts.grouped_mainKinds, hparts.grouped_parserKinds]
  have hparser : (others.insert Section.mainFile (Text.join "\n"
      (Section.variableLines (mainVariables p.buffersDir p.logsDir)
        ++ (mainSections c p o is own).map Section.render))).get? Section.parserFile = none := by
    rw [Keyed.get?_insert, if_neg (by decide)]
    exact hfresh _ (.inr rfl)
  exact (Keyed.entries_insert_perm hparser _).trans
    ((((Keyed.entries_insert_perm (hfresh _ (.inl rfl)) _).trans (hentries.cons _)).cons _).trans
      (.swap _ _ _))

/-- Two receivers with a parser of their own, listed against the order of their ids, and one whose
clients extend the tag, which brings a script. -/
def orderedLogs : Config where
  logging := some {
    receivers := .ofList [
      ("a", .syslog "udp" "0.0.0.0" 5141),
      ("b", .syslog "tcp" "0.0.0.0" 5140),
      ("c", .forward none none)]
    processors := .ofList [("java", .parseMultiline [⟨languageExceptions, "java"⟩])]
    pipelines := .ofList [("p", { receivers := ["b", "c", "a"], processors := ["java"] })] }

/-- The files for `orderedLogs`: the parsers come in the order of the list. -/
theorem compile_order_orderedLogs :
    ∃ files, compile orderedLogs samplePlatform { selfLogs := true } = .ok files ∧
      ∃ is own, orderedLogs.logInstances .fluentBit = .ok is ∧
        (ofKind .parser own).map ParserRegistry.nameOf = ["p.b", "p.a"] ∧
        files.entries.Perm (
          (Section.mainFile, Text.join "\n" (Section.variableLines
              (mainVariables samplePlatform.buffersDir samplePlatform.logsDir)
            ++ (mainSections orderedLogs samplePlatform { selfLogs := true } is own).map
                Section.render))
          :: (Section.parserFile, Text.join "\n" ((parserSections own).map Section.render))
          :: (own.flatten.filterMap Section.file?).dedup) := by
  obtain ⟨files, h⟩ :
      ∃ files, compile orderedLogs samplePlatform { selfLogs := true } = .ok files :=
    exists_of_isOk rfl
  obtain ⟨is, own, ss, his, hown, -, -, -, hentries⟩ := compile_order h
  have hnames : ((orderedLogs.logInstances .fluentBit) >>= fun is =>
      is.mapM (·.simplify.sections samplePlatform)).map (fun own =>
        (ofKind .parser own).map ParserRegistry.nameOf) = .ok ["p.b", "p.a"] := by
    rfl
  have hmap : (orderedLogs.logInstances .fluentBit >>= fun is =>
      is.mapM (·.simplify.sections samplePlatform)) = .ok own :=
    bind_eq_ok.mpr ⟨is, his, mapM_eq_ok.mpr hown⟩
  have hordered := eq_of_map_eq_ok hmap hnames
  exact ⟨files, h, is, own, his, hordered, hentries⟩

end LogEngine

end Telemetry
