import Telemetry.Proofs.InstanceNames
import Telemetry.Proofs.Registry

/-!
# The sections of a run

A compilation builds the sections of all instances, collects the parsers among them, and writes
files. Once the instances are known, so are all sections that are built:

* **`sections_eq_ok`**, **`sections_eq_error`** — building sections fails only where resolving does.
* **`namesIn_run`** — the names in the sections of a run are those of its instances, and the
  position database of the agent's own logs.
* **`emittedSections`** — the sections that are written, of which **`compile_eq`** makes files.
-/

namespace Telemetry

open Failing

/-! ## Sections that a run builds -/

/-- A section of a run comes from a component, or is one for the service or an output. -/
def Section.InRun (s : Section) : Prop :=
  s.Regular ∨ s.kind = .service ∨ s.kind = .output

namespace Section.InRun

variable {s : Section}

theorem values_name (h : s.InRun) (hk : s.kind = .parser) :
    s.values "Name" = [ParserRegistry.nameOf s] := by
  rcases h with h | h | h
  · exact h.parser hk
  · rw [hk] at h
    exact nomatch h
  · rw [hk] at h
    exact nomatch h

theorem file_name (h : s.InRun) {name contents : String}
    (hf : s.file? = some (name, contents)) : name = Script.fileName contents := by
  rcases h with h | h | h
  · exact h.file name contents hf
  · rw [Section.file?, if_neg (by simp [h])] at hf
    cases hf
  · rw [Section.file?, if_neg (by simp [h])] at hf
    cases hf

theorem unknownKind? (h : s.InRun) : s.unknownKind? = none := by
  rcases h with h | h | h
  · rcases h.kind with h | h | h | h | h <;> simp [Section.unknownKind?, h]
  · simp [Section.unknownKind?, h]
  · simp [Section.unknownKind?, h]

end Section.InRun

/-- Sections for the service and outputs have no names. -/
theorem namesIn_eq_empty {ss : List Section} (h : ∀ s ∈ ss, s.kind = .service ∨ s.kind = .output) :
    namesIn ss = {} := by
  have key : ∀ kinds : List SectionKind, .service ∉ kinds → .output ∉ kinds →
      ∀ k, Section.valuesIn kinds k ss = [] := by
    intro kinds hservice houtput k
    refine Section.valuesIn_eq_nil ?_
    intro s hs
    rcases h s hs with h | h
    · rw [h]
      exact hservice
    · rw [h]
      exact houtput
  ext1 <;> exact key _ (by decide) (by decide) _

/-- A platform for examples. -/
def samplePlatform : Platform :=
  ⟨.linux, "host", "1.0", "distro", "name", "2", "/var/log/agent", "/var/lib/agent/"⟩

namespace LogEngine

/-- The names of the agent's own logs. -/
def selfLogNames (o : CompileOptions) : Names :=
  if o.selfLogs then { databases := [Input.positions selfLogTag] } else {}

/-- The input for the agent's own logs. -/
theorem selfLogSections_eq (p : Platform) :
    ∃ input, selfLogSections p = [input, outputFor p [selfLogTag]] ∧
      Carries [input] { databases := [Input.positions selfLogTag] } := by
  cases h : selfLogInput.section? selfLogTag with
  | none => exact nomatch h
  | some input =>
      refine ⟨input, ?_, Carries.tail h⟩
      rw [selfLogSections, h]
      rfl

/-- The sections of a run are put together from those of the instances, in order, and others. -/
structure Parts (c : Config) (p : Platform) (o : CompileOptions) (is : List LogInstance)
    (own : List (List Section)) (ss : List Section) : Prop where
  each : List.Forall₂ (fun i part => i.simplify.sections p = .ok part ∧ Carries part i.simplify.names)
    is own
  all : ss = serviceSection (c.engineLogLevel o.defaultLogLevel) :: own.flatten
    ++ outputs p (is.map (·.simplify)) ++ if o.selfLogs then selfLogSections p else []

variable {c : Config} {p : Platform} {o : CompileOptions} {is : List LogInstance}

/-- **Sections are built** for any instances that could be resolved. -/
theorem sections_eq_ok (h : c.logInstances .fluentBit = .ok is) :
    ∃ own ss, Parts c p o is own ss ∧ sections c p o = .ok ss := by
  have hown : ∃ own, List.Forall₂ (fun i part =>
      i.simplify.sections p = .ok part ∧ Carries part i.simplify.names) is own := by
    clear h
    induction is with
    | nil => exact ⟨[], .nil⟩
    | cons i is ih =>
        obtain ⟨own, hown⟩ := ih
        obtain ⟨part, hpart⟩ := i.simplify_plain.sections_carries p
        exact ⟨part :: own, .cons hpart hown⟩
  obtain ⟨own, hown⟩ := hown
  have hmap : (is.map (·.simplify)).mapM (·.sections p) = .ok own := by
    refine mapM_eq_ok.mpr ?_
    rw [List.forall₂_map_left_iff]
    exact hown.imp fun _ _ h => h.1
  refine ⟨own, _, ⟨hown, rfl⟩, ?_⟩
  exact bind_eq_ok.mpr ⟨is, h, bind_eq_ok.mpr ⟨own, hmap, rfl⟩⟩

/-- Building sections fails where resolving does, and in the same way. -/
theorem sections_eq_error {e : CompileError} :
    sections c p o = .error e ↔ c.logInstances .fluentBit = .error e := by
  cases h : c.logInstances .fluentBit with
  | error e' =>
      have hs : sections c p o = .error e' := bind_eq_error.mpr (.inl h)
      rw [hs]
      constructor <;> intro he <;> exact congrArg Except.error (Except.error.inj he)
  | ok is =>
      obtain ⟨own, ss, -, hs⟩ := sections_eq_ok (p := p) (o := o) h
      rw [hs]
      constructor <;> intro he <;> exact nomatch he

namespace Parts

variable {own : List (List Section)} {ss : List Section}

/-- The sections of the instances have the names of all. -/
theorem carries (h : Parts c p o is own ss) :
    Carries own.flatten (Names.all (is.map (·.simplify.names))) := by
  refine Carries.all ?_
  rw [List.forall₂_map_right_iff]
  exact h.each.flip.imp fun _ _ h => h.2

/-- Each section of a run is one that a run builds. -/
theorem inRun (h : Parts c p o is own ss) : ∀ s ∈ ss, s.InRun := by
  intro s hs
  rw [h.all] at hs
  rcases List.mem_append.mp hs with hs | hs
  · rcases List.mem_append.mp hs with hs | hs
    · rcases List.mem_cons.mp hs with rfl | hs
      · exact .inr (.inl rfl)
      · exact .inl (h.carries.regular s hs)
    · obtain ⟨id, -, rfl⟩ := List.mem_map.mp hs
      exact .inr (.inr rfl)
  · split at hs
    · obtain ⟨input, hself, hinput⟩ := selfLogSections_eq p
      rw [hself] at hs
      rcases List.mem_cons.mp hs with rfl | hs
      · exact .inl (hinput.regular s List.mem_cons_self)
      · rw [List.mem_singleton.mp hs]
        exact .inr (.inr rfl)
    · exact nomatch hs

/-- The same holds where the parsers are collected. -/
theorem inRun_collected (h : Parts c p o is own ss) : ∀ s ∈ collected ss, s.InRun := by
  intro s hs
  rcases mem_collected hs with hs | ⟨d, -, rfl⟩
  · exact h.inRun s hs
  · exact .inl ((Carries.parserDef d).regular _ List.mem_cons_self)

/-- **The names of a run** are those of its instances and of the agent's own logs. -/
theorem namesIn_run (h : Parts c p o is own ss) :
    namesIn ss = Names.all (is.map (·.simplify.names)) ++ selfLogNames o := by
  have hservice : namesIn [serviceSection (c.engineLogLevel o.defaultLogLevel)] = {} :=
    namesIn_eq_empty (List.forall_mem_singleton.mpr (.inl rfl))
  have houtputs : namesIn (outputs p (is.map (·.simplify))) = {} := by
    refine namesIn_eq_empty ?_
    intro s hs
    obtain ⟨id, -, rfl⟩ := List.mem_map.mp hs
    exact .inr rfl
  have hself : namesIn (if o.selfLogs then selfLogSections p else []) = selfLogNames o := by
    rw [selfLogNames]
    split
    · obtain ⟨input, hself, hinput⟩ := selfLogSections_eq p
      have hout : namesIn [outputFor p [selfLogTag]] = {} :=
        namesIn_eq_empty (List.forall_mem_singleton.mpr (.inr rfl))
      rw [hself, ← List.singleton_append, namesIn_append, hinput.names_eq, hout, Names.append_empty]
    · rfl
  rw [h.all, ← List.singleton_append, namesIn_append, namesIn_append, namesIn_append, hservice,
    houtputs, hself, h.carries.names_eq, Names.empty_append, Names.append_empty]

/-- The names that are written, one field after the other: those of the built-in parsers, of the
instances, and of the agent's own logs. -/
theorem namesIn_written (h : Parts c p o is own ss) :
    namesIn (collected ss) = {
      parsers := ParserDef.builtinNames ++ is.flatMap (·.simplify.names.parsers)
      lineParsers := is.flatMap (·.simplify.names.lineParsers)
      databases := is.flatMap (·.simplify.names.databases)
        ++ if o.selfLogs then [Input.positions selfLogTag] else []
      parserUses := is.flatMap (·.simplify.names.parserUses)
      lineParserUses := is.flatMap (·.simplify.names.lineParserUses) } := by
  rw [namesIn_collected, h.namesIn_run, selfLogNames]
  split <;> ext1 <;> simp [Names.all, List.flatMap_map]

/-- The parsers of a run are those of its instances. -/
theorem parsers_eq (h : Parts c p o is own ss) :
    (namesIn ss).parsers = is.flatMap (·.simplify.names.parsers) := by
  have hw := congrArg Names.parsers h.namesIn_written
  rw [namesIn_collected] at hw
  exact List.append_cancel_left hw

/-- The sections of an instance have its names. -/
theorem namesIn_part (h : Parts c p o is own ss) :
    ∀ part ∈ own, ∃ i ∈ is, namesIn part = i.simplify.names := by
  intro part hpart
  obtain ⟨i, hi, -, hc⟩ := exists_of_mem_forall₂ h.each hpart
  exact ⟨i, hi, hc.names_eq⟩

/-- What the sections of all instances say is what the instances say. -/
theorem flatMap_namesIn (h : Parts c p o is own ss) (f : Names → List String) :
    own.flatMap (fun part => f (namesIn part)) = is.flatMap fun i => f i.simplify.names := by
  have heach := h.each
  clear h
  induction heach with
  | nil => rfl
  | cons hpart _ ih => rw [List.flatMap_cons, List.flatMap_cons, ih, hpart.2.names_eq]

/-- The sections of an instance are among those that are written. -/
theorem part_subset (h : Parts c p o is own ss) : ∀ part ∈ own, part ⊆ collected ss := by
  intro part hpart s hs
  refine mem_collected_of_mem ?_
  rw [h.all]
  refine List.mem_append_left _ (List.mem_append_left _ (List.mem_cons_of_mem _ ?_))
  exact List.mem_flatten.mpr ⟨part, hpart, hs⟩

/-- The sections of a run have kinds that are written somewhere. -/
theorem kind_mem (h : Parts c p o is own ss) :
    ∀ s ∈ collected ss, s.kind ∈ Section.mainKinds ++ Section.parserKinds ++ [.file] := by
  intro s hs
  rcases mem_collected hs with hs | ⟨d, -, rfl⟩
  · rcases h.inRun s hs with hr | hk | hk
    · rcases hr.kind with hk | hk | hk | hk | hk <;> rw [hk] <;> decide
    · rw [hk]
      decide
    · rw [hk]
      decide
  · rw [Carries.kind_parserDef d]
    decide

end Parts

/-! ## Proper names of parsers -/

/-- **Parsers bear proper names:** none is empty or reserved, because the base tag in front begins
with the id of a pipeline. -/
theorem parsers_proper (hc : c.check = .ok ()) (h : c.logInstances .fluentBit = .ok is) :
    ∀ n ∈ (Names.all (is.map (·.simplify.names))).parsers, n ≠ "" ∧ isReserved n = false := by
  intro n hn
  obtain ⟨ns, hns, hn⟩ := List.mem_flatMap.mp hn
  obtain ⟨i, hi, rfl⟩ := List.mem_map.mp hns
  rw [LogInstance.names_parsers, LogInstance.base_eq, LogInstance.simplify_pipeline] at hn
  -- all names are the pipeline, a dot, and something
  obtain ⟨rest, rfl⟩ : ∃ rest, n = i.pipeline ++ "." ++ rest := by
    rcases Text.mem_stemNames.mp hn with ⟨-, rfl⟩ | ⟨u, -, rfl⟩
    · exact ⟨_, rfl⟩
    · exact ⟨i.simplify.receiverId ++ "." ++ u, by simp [String.append_assoc]⟩
  refine ⟨?_, ?_⟩
  · intro he
    have hlen := congrArg (fun s : String => s.toList.length) he
    simp at hlen
  · rw [isReserved_append_dot]
    exact Config.pipeline_not_reserved hc h i hi

/-! ## Sections that are written -/

/-- The sections for a configuration after its parsers are collected, as they are written. -/
def emittedSections (c : Config) (p : Platform) (o : CompileOptions) :
    Except CompileError (List Section) := do
  let ss ← sections c p o
  (collectParsers ss).mapError SectionError.toCompileError

/-- **Compiling writes the emitted sections into files.** -/
theorem compile_eq (c : Config) (p : Platform) (o : CompileOptions) :
    compile c p o = emittedSections c p o >>= fun ss =>
      (Section.layout (mainVariables p.buffersDir p.logsDir) ss).mapError
        SectionError.toCompileError := by
  rw [compile, emittedSections]
  cases sections c p o with
  | error e => rfl
  | ok ss => rfl

/-- **The parsers of a run are collected exactly if no name comes twice.** Otherwise the compilation
stops at a name that collides. -/
theorem emittedSections_cases (hc : c.check = .ok ()) (h : c.logInstances .fluentBit = .ok is)
    {own : List (List Section)} {ss : List Section} (hparts : Parts c p o is own ss)
    (hss : sections c p o = .ok ss) :
    ((is.flatMap (·.simplify.names.parsers)).Nodup ∧
      emittedSections c p o = .ok (collected ss)) ∨
    (¬ (is.flatMap (·.simplify.names.parsers)).Nodup ∧ ∃ n,
      emittedSections c p o = .error (SectionError.parserCollision n).toCompileError) := by
  have hn := hparts.parsers_eq
  have hproper : ∀ n ∈ (namesIn ss).parsers, n ≠ "" ∧ isReserved n = false := by
    rw [hn]
    have hp := parsers_proper hc h
    simpa [Names.all, List.flatMap_map] using hp
  rw [← hn]
  rcases collectParsers_cases (fun s hs hk => (hparts.inRun s hs).values_name hk) hproper with
    ⟨hnodup, hok⟩ | ⟨hdup, n, -, herr⟩
  · exact .inl ⟨hnodup, bind_eq_ok.mpr ⟨ss, hss, mapError_eq_ok.mpr hok⟩⟩
  · exact .inr ⟨hdup, n, bind_eq_error.mpr (.inr ⟨ss, hss, mapError_eq_error.mpr ⟨_, herr, rfl⟩⟩)⟩

/-- **Why there are no files:** the instances cannot be resolved, or the serialiser refuses. -/
theorem compile_eq_error {e : CompileError} (h : compile c p o = .error e) :
    c.logInstances .fluentBit = .error e ∨ ∃ reason, e = .backend .fluentBit reason := by
  rw [compile_eq] at h
  rcases bind_eq_error.mp h with h | ⟨ss, -, h⟩
  · rcases bind_eq_error.mp h with h | ⟨ss, -, h⟩
    · exact .inl (sections_eq_error.mp h)
    · obtain ⟨e', -, rfl⟩ := mapError_eq_error.mp h
      exact .inr ⟨_, rfl⟩
  · obtain ⟨e', -, rfl⟩ := mapError_eq_error.mp h
    exact .inr ⟨_, rfl⟩

/-- A compilation that gives files has resolved its instances, and has collected the parsers of
their sections without finding a name twice. -/
theorem parts_of_compile {files : Files} (h : compile c p o = .ok files) :
    ∃ is own ss, c.logInstances .fluentBit = .ok is ∧ Parts c p o is own ss ∧
      emittedSections c p o = .ok (collected ss) ∧
      Section.layout (mainVariables p.buffersDir p.logsDir) (collected ss) = .ok files ∧
      (∀ n ∈ (namesIn ss).parsers, n ≠ "" ∧ isReserved n = false) ∧
      (namesIn ss).parsers.Nodup := by
  rw [compile_eq] at h
  obtain ⟨ss', hemitted, hlayout⟩ := bind_eq_ok.mp h
  obtain ⟨ss, hss, hcollect⟩ := bind_eq_ok.mp hemitted
  cases his : c.logInstances .fluentBit with
  | error e =>
      rw [sections_eq_error.mpr his] at hss
      exact nomatch hss
  | ok is =>
      obtain ⟨own, ss₁, hparts, hss₁⟩ := sections_eq_ok (p := p) (o := o) his
      rw [hss] at hss₁
      obtain rfl := Except.ok.inj hss₁
      obtain ⟨hproper, hnodup, rfl⟩ :=
        (collectParsers_eq_ok fun s hs hk => (hparts.inRun s hs).values_name hk).mp
          (mapError_eq_ok.mp hcollect)
      exact ⟨is, own, ss, rfl, hparts, hemitted, mapError_eq_ok.mp hlayout, hproper, hnodup⟩

end LogEngine

end Telemetry
