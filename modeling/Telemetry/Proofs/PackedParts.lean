import Telemetry.Proofs.Calls
import Telemetry.Proofs.PackedValues

/-!
# The parts that a configuration packs

Paths, channels, fields and types of a configuration stand in values with several parts. This file
lists them for a whole configuration, and says when reading its sections gives them back.

* **`LogReceiver.packs`**, **`LogProcessor.packs`** — the sections of one component, with its parts.
* **`LogInstance.simplify_ownPacked`** — simplifying keeps all parts.
* **`LogEngine.compile_readsBack`** — the values of all sections that are written are read back
  exactly if all parts can be told apart. A path with a comma is read as two:
  **`LogEngine.compile_commaPath`**.
-/

namespace Telemetry

open Failing

variable {t : Tag} {ss : List Section}

/-! ## Processors -/

/-- The parts of changes to fields. -/
def ModifyFields.packed (m : ModifyFields) : List (String × Packed) :=
  m.ops.flatMap (·.packed)
    ++ m.fields.entries.flatMap fun f =>
      f.2.mapValues.entries.map fun row => ("Set", .pair f.1 row.2)

theorem ModifyFields.packs (m : ModifyFields) : Packs (m.sections t) m.packed := by
  refine Packs.append ?_ (Packs.flatMap ?_)
  · split
    · rename_i h
      rw [List.isEmpty_iff.mp h]
      exact Packs.nil
    · exact Packs.modify t.routing m.ops
  · intro f _
    rw [replacements, List.map_eq_flatMap, List.map_eq_flatMap]
    exact Packs.flatMap fun row _ =>
      Packs.modifyIf t.routing (Filter.keyEquals f.1 row.1) (.set f.1 row.2)

namespace LogProcessor

/-- The parts of a processor that stands for itself. -/
def ownPacked : LogProcessor → List (String × Packed)
  | configured (.parseRegex p) => ParserDef.packedTypes p.types
  | configured (.excludeLogs rs) => rs.map fun r => ("Exclude", .pair r.field r.regex)
  | configured (.modifyFields m) => m.packed
  | severity _ table => table.map fun row => ("Add", .pair severityKey row.2)
  | _ => []

/-- The parts of a processor, or of those for which it stands. -/
def packed (p : LogProcessor) : List (String × Packed) :=
  (p.expand?.getD [p]).flatMap ownPacked

/-- **What the sections of a processor pack.** -/
theorem packs {p : LogProcessor} {uid : String} (h : p.sections? t uid = some ss) :
    Packs ss p.ownPacked := by
  match p with
  | configured (.parseJson q) =>
      obtain rfl := Option.some.inj h
      exact (Packs.parserDef (q.parser uid)).cons (Packs.parseChain _ _ _ _)
  | configured (.parseRegex q) =>
      obtain rfl := Option.some.inj h
      have hp := (Packs.parserDef (q.parser uid)).cons (Packs.parseChain t.routing q.field [uid] false)
      rwa [List.append_nil] at hp
  | configured (.parseMultiline gs) =>
      obtain rfl := Option.some.inj h
      exact (Packs.lineParser _ _).cons (Packs.joinLines _ _)
  | configured (.excludeLogs rs) =>
      obtain rfl := Option.some.inj h
      have hp := Packs.exclude t.routing (rs.map fun r => (r.field, r.regex))
      rwa [List.map_map] at hp
  | configured (.modifyFields m) =>
      obtain rfl := Option.some.inj h
      exact m.packs
  | configured (.app _) => cases h
  | builtinParser name =>
      obtain rfl := Option.some.inj h
      exact Packs.parse _ _ _ _
  | severity source table =>
      obtain rfl := Option.some.inj h
      exact Packs.mapValues _ _ _ _
  | httpRequest =>
      obtain rfl := Option.some.inj h
      -- the changes for dashes only remove fields
      have hdashes : ∀ field ∈ dashFields, Packs
          [Filter.modifyIf t.routing (Filter.keyEquals field "-") (.remove field)] [] :=
        fun field _ => Packs.modifyIf _ _ _
      exact (Packs.of_forall_nil (List.forall_mem_map.mpr hdashes)).append (Packs.nestFields _ _ _ _)

end LogProcessor

/-! ## Receivers -/

/-- The parts of the files to read. Without paths there is no input. -/
def FileSource.packed (s : FileSource) : List (String × Packed) :=
  if s.includePaths.isEmpty then []
  else ("Path", .list s.includePaths)
    :: if s.excludePaths.isEmpty then [] else [("Exclude_Path", .list s.excludePaths)]

namespace LogReceiver

/-- The parts of a receiver that stands for itself. -/
def ownPacked : LogReceiver → List (String × Packed)
  | configured (.files s) => s.packed
  | configured (.eventLog channels) =>
    ("Channels", .list channels) :: eventSeverities.map fun row => ("Add", .pair severityKey row.2)
  | tail s _ => s.packed
  | _ => []

/-- The parts of a receiver, or of those for which it stands. -/
def packed (r : LogReceiver) : List (String × Packed) :=
  let e := r.expand?.getD (r, [])
  e.1.ownPacked ++ e.2.flatMap LogProcessor.ownPacked

/-- The change that puts the text right where a tail joins lines. -/
def lineRename : LogReceiver → List (String × Packed)
  | tail _ rules => if rules.isEmpty then [] else [("Rename", .pair "log" "message")]
  | configured _ => []

/-- **What the sections of a receiver pack.** -/
theorem packs {r : LogReceiver} (h : r.sections? t = some ss) :
    Packs ss (r.lineRename ++ r.ownPacked) := by
  have hfiles : ∀ (s : FileSource) (rules : List Filter.LineRule),
      Packs (s.sections rules t) ((tail s rules).lineRename ++ s.packed) := by
    intro s rules
    rw [FileSource.sections, lineRename]
    split
    · exact Packs.tail (s.input none) t
    · exact (Packs.lineParser _ _).cons ((Packs.modify t.routing [.rename "log" "message"]).cons
        ((Packs.scriptFilter t.routing "strip_newline" Script.stripNewline).append
          (Packs.tail (s.input (some ("multiline." ++ t.base))) t)))
  cases r with
  | tail s rules =>
      obtain rfl := Option.some.inj h
      exact hfiles s rules
  | configured config =>
      cases config with
      | files s =>
          obtain rfl := Option.some.inj h
          exact hfiles s []
      | syslog transport host port =>
          obtain rfl := Option.some.inj h
          exact Packs.syslog _ _ _ _
      | tcp host port format =>
          obtain rfl := Option.some.inj h
          exact Packs.tcp _ _ _ _
      | forward host port =>
          obtain rfl := Option.some.inj h
          exact Packs.forward _ _ _
      | eventLog channels =>
          obtain rfl := Option.some.inj h
          exact (Packs.eventLog t channels).cons ((Packs.parserDef (.regex _ _ _)).cons
            ((Packs.parse _ _ _ _).cons (Packs.mapValues _ _ _ _)))
      | app app s => cases h

end LogReceiver

/-! ## Instances -/

namespace LogInstance

/-- The parts in the mark of an instance. -/
def identityPacked (i : LogInstance) (p : Platform) : List (String × Packed) := [
  ("Add", .pair "logging.googleapis.com/logName" i.receiverId),
  ("Add", .pair "logging.googleapis.com/labels.pipeline" i.pipeline),
  ("Add", .pair "agent.googleapis.com/hostname" p.hostname)]

/-- The parts of an instance whose components stand for themselves. -/
def ownPacked (i : LogInstance) (p : Platform) : List (String × Packed) :=
  i.receiver.lineRename
    ++ (i.receiver.ownPacked ++ i.processors.flatMap (·.processor.ownPacked)) ++ i.identityPacked p

/-- The parts of an instance as it is configured. The change in front comes with line rules that the
receiver takes over. -/
def packed (i : LogInstance) (p : Platform) : List (String × Packed) :=
  i.simplify.receiver.lineRename
    ++ (i.receiver.packed ++ i.processors.flatMap (·.processor.packed)) ++ i.identityPacked p

/-- **What the sections of an instance pack.** -/
theorem packs {i : LogInstance} {p : Platform} (h : i.sections p = .ok ss) :
    Packs ss (i.ownPacked p) := by
  obtain ⟨receiver, parts, hreceiver, hparts, rfl⟩ := sections_eq_ok.mp h
  have hprocessors : ∀ {xs : List (Binding × Nat)} {parts : List (List Section)},
      List.Forall₂ (fun x part => x.1.processor.sections? i.tag (i.uid x.2) = some part) xs parts →
      Packs parts.flatten ((xs.map (·.1)).flatMap (·.processor.ownPacked)) := by
    intro xs parts h
    induction h with
    | nil => exact Packs.nil
    | cons hown _ ih => exact (LogProcessor.packs hown).append ih
  have hps := hprocessors hparts
  rw [List.zipIdx_map_fst] at hps
  have hname : Packs (if i.tag.dynamic then Script.addLogNameFilter i.tag.routing else []) [] := by
    split
    · exact Packs.scriptFilter _ _ _
    · exact Packs.nil
  have hclosing : Packs (i.closingSections i.tag p) (i.identityPacked p) :=
    (Packs.modify _ _).cons hname
  rw [ownPacked, ← List.append_assoc]
  exact ((LogReceiver.packs hreceiver).append hps).append hclosing

/-- Taking over processors keeps all parts, because those who join lines have none. -/
theorem absorbAll_ownPacked (r : LogReceiver) (bs : List Binding) :
    (r.absorbAll bs).1.ownPacked ++ (r.absorbAll bs).2.flatMap (·.processor.ownPacked)
      = r.ownPacked ++ bs.flatMap (·.processor.ownPacked) := by
  induction bs generalizing r with
  | nil => rfl
  | cons b bs ih =>
      rw [LogReceiver.absorbAll]
      cases ha : r.absorb? b.processor with
      | none => rfl
      | some r' =>
          obtain ⟨s, gs, rfl, hb, rfl⟩ := LogReceiver.absorb?_eq_some.mp ha
          show ((LogReceiver.tail s (LineGroup.rules gs)).absorbAll bs).1.ownPacked ++ _ = _
          rw [ih, List.flatMap_cons, hb]
          rfl

/-- Expanding keeps all parts. -/
theorem expand_ownPacked (i : LogInstance) :
    i.expand.receiver.ownPacked ++ i.expand.processors.flatMap (·.processor.ownPacked)
      = i.receiver.packed ++ i.processors.flatMap (·.processor.packed) := by
  have hbound : (i.processors.flatMap Binding.expand).flatMap (·.processor.ownPacked)
      = i.processors.flatMap (·.processor.packed) := by
    rw [List.flatMap_assoc]
    refine List.flatMap_congr fun b _ => ?_
    rw [Binding.expand, LogProcessor.packed]
    cases b.processor.expand? with
    | none => rfl
    | some ps => rw [List.flatMap_map]; rfl
  have hown : ∀ own : List LogProcessor,
      (own.map fun p => (⟨i.receiverId, p⟩ : Binding)).flatMap (·.processor.ownPacked)
        = own.flatMap LogProcessor.ownPacked := by
    intro own
    rw [List.flatMap_map]
  show (i.receiver.expand?.getD (i.receiver, [])).1.ownPacked ++ List.flatMap _ (_ ++ _) = _
  rw [List.flatMap_append, hown, hbound, ← List.append_assoc]
  rfl

/-- **Simplifying keeps all parts.** -/
theorem simplify_ownPacked (i : LogInstance) (p : Platform) : i.simplify.ownPacked p = i.packed p := by
  rw [ownPacked, packed, simplify_receiver, simplify_processors, absorbAll_ownPacked,
    expand_ownPacked]
  rfl

end LogInstance

/-! ## Runs -/

/-- The built-in parsers convert no types. -/
theorem Packs.builtins : Packs (ParserDef.builtins.map ParserDef.toSection) [] := by
  have htypes : ∀ d ∈ ParserDef.builtins, d.types = .empty := by
    simp [ParserDef.builtins, ParserDef.regex]
  refine Packs.of_forall_nil (List.forall_mem_map.mpr fun d hd => ?_)
  have hp := Packs.parserDef d
  rwa [htypes d hd] at hp

/-- Collecting parsers keeps what is packed. -/
theorem Packs.collected {xs : List (String × Packed)} (h : Packs ss xs) :
    Packs (collected ss) xs := by
  refine ⟨h.fits, fun key hkey => ?_⟩
  rw [← h.values key hkey, Packed.valuesOf, Packed.valuesOf]
  by_cases hk : Packed.kindOf key = .parser
  · have hother : Section.valuesIn [Packed.kindOf key] key (ss.filter fun s => !s.isParser) = [] := by
      refine Section.valuesIn_eq_nil fun s hs => ?_
      simpa [hk, Section.isParser] using (List.mem_filter.mp hs).2
    have hparsers : Section.valuesIn [Packed.kindOf key] key (ss.filter (·.isParser))
        = Section.valuesIn [Packed.kindOf key] key ss := by
      rw [Section.valuesIn_eq_filter, Section.valuesIn_eq_filter, List.filter_filter]
      refine congrArg (List.flatMap _) (List.filter_congr fun s _ => ?_)
      simp [hk, Section.isParser]
    have hbuiltins : Section.valuesIn [Packed.kindOf key] key
        (ParserDef.builtins.map ParserDef.toSection) = [] := Packs.builtins.values key hkey
    rw [Telemetry.collected, Section.valuesIn_append, Section.valuesIn_append, hother, hbuiltins,
      hparsers]
    rfl
  · rw [Section.valuesIn_eq_filter, Section.valuesIn_eq_filter, filter_collected]
    intro s hs
    simpa [hs] using Ne.symm hk

namespace LogEngine

variable {c : Config} {p : Platform} {o : CompileOptions} {is : List LogInstance}

/-- The parts of a run: those of its instances, and the path of the agent's own logs. -/
def packed (p : Platform) (o : CompileOptions) (is : List LogInstance) : List (String × Packed) :=
  is.flatMap (·.packed p)
    ++ if o.selfLogs then [("Path", .list selfLogInput.includePaths)] else []

/-- **What the sections of a run pack.** -/
theorem Parts.packs {own : List (List Section)} (h : Parts c p o is own ss) :
    Packs ss (packed p o is) := by
  have hservice : Packs [serviceSection (c.engineLogLevel o.defaultLogLevel)] [] :=
    Packs.other (by simp [serviceSection])
  have houtput : ∀ tags, Packs [outputFor p tags] [] := by
    intro tags
    exact Packs.other (by simp [outputFor, stackdriverOutput])
  have houtputs : Packs (outputs p (is.map (·.simplify))) [] :=
    Packs.of_forall_nil (List.forall_mem_map.mpr fun e _ => houtput _)
  have hinstances : ∀ {is : List LogInstance} {own : List (List Section)},
      List.Forall₂ (fun i part => i.simplify.sections p = .ok part ∧ Carries part i.simplify.names)
        is own → Packs own.flatten (is.flatMap (·.packed p)) := by
    intro is own h
    induction h with
    | nil => exact Packs.nil
    | @cons i part is own hi _ ih =>
        have hpart := LogInstance.packs hi.1
        rw [LogInstance.simplify_ownPacked] at hpart
        exact hpart.append ih
  have hself : Packs (if o.selfLogs then selfLogSections p else [])
      (if o.selfLogs then [("Path", .list selfLogInput.includePaths)] else []) := by
    split
    · exact (Packs.tail selfLogInput selfLogTag).append (houtput [selfLogTag])
    · exact Packs.nil
  have hall := ((hservice.cons (hinstances h.each)).append houtputs).append hself
  rw [List.nil_append, List.append_nil] at hall
  rw [h.all]
  exact hall

/-- **The values with several parts are read back** exactly if all parts can be told apart. -/
theorem compile_readsBack {files : Files} (h : compile c p o = .ok files) :
    ∃ is ss, c.logInstances .fluentBit = .ok is ∧ emittedSections c p o = .ok ss ∧
      (∀ key ∈ Packed.keys, Packed.valuesOf key ss
        = (Packed.partsOf key (packed p o is)).map Packed.encode) ∧
      (Packed.ReadsBack ss (packed p o is) ↔ ∀ x ∈ packed p o is, x.2.Separable) := by
  obtain ⟨is, own, ss, his, hparts, hemitted, -, -, -⟩ := parts_of_compile h
  have hpacks := hparts.packs.collected
  exact ⟨is, collected ss, his, hemitted, hpacks.values, hpacks.readsBack_iff⟩

/-- Files, an event log, and processors with fields and types. -/
def packedLogs : Config where
  logging := some {
    receivers := .ofList [
      ("own", .files { includePaths := ["/a.log", "/b.log"], excludePaths := ["/c.log"] }),
      ("events", .eventLog ["System", "Application"])]
    processors := .ofList [
      ("read", .parseRegex { regex := "^(?<pid>[0-9]+)$", types := .ofList [("pid", "integer")] }),
      ("drop", .excludeLogs [⟨"level", "debug trace"⟩]),
      ("mark", .modifyFields { fields := .ofList [
        ("level", { mapValues := .ofList [("E", "an error")] }),
        ("team", { copyFrom := some "group" })] })]
    exporters := .ofList [("x", .googleCloudLogging)]
    pipelines := .ofList [
      ("p", { receivers := ["own"], processors := ["read", "drop", "mark"], exporters := ["x"] }),
      ("q", { receivers := ["events"], exporters := ["x"] })] }

/-- The parts in `packedLogs` are read back. -/
theorem compile_readsBack_packedLogs :
    ∃ files, compile packedLogs samplePlatform { selfLogs := true } = .ok files ∧
      ∃ is ss, packedLogs.logInstances .fluentBit = .ok is ∧
        emittedSections packedLogs samplePlatform { selfLogs := true } = .ok ss ∧
        Packed.ReadsBack ss (packed samplePlatform { selfLogs := true } is) := by
  obtain ⟨files, h⟩ :
      ∃ files, compile packedLogs samplePlatform { selfLogs := true } = .ok files :=
    exists_files hashSeparates_sampleScripts (by decide +kernel) rfl
  obtain ⟨is, ss, his, hss, -, hiff⟩ := compile_readsBack h
  have hparts : (packedLogs.logInstances .fluentBit).map (fun is =>
      decide (∀ x ∈ packed samplePlatform { selfLogs := true } is, x.2.Separable)) = .ok true := by
    rfl
  exact ⟨files, h, is, ss, his, hss, hiff.mpr (of_map_decide his hparts)⟩

/-- A file whose path has a comma. -/
def commaPath : Config where
  logging := some {
    receivers := .ofList [("r", .files { includePaths := ["/a,b.log"] })]
    pipelines := .ofList [("p", { receivers := ["r"] })] }

/-- **A path with a comma is read as two,** for an accepted configuration. -/
theorem compile_commaPath : commaPath.check = .ok () ∧
    ∃ files is ss, compile commaPath samplePlatform {} = .ok files ∧
      commaPath.logInstances .fluentBit = .ok is ∧
      emittedSections commaPath samplePlatform {} = .ok ss ∧
      Packed.partsOf "Path" (packed samplePlatform {} is) = [.list ["/a,b.log"]] ∧
      (Packed.valuesOf "Path" ss).map (Packed.read "Path") = [some (.list ["/a", "b.log"])] ∧
      ¬ Packed.ReadsBack ss (packed samplePlatform {} is) := by
  obtain ⟨files, h⟩ : ∃ files, compile commaPath samplePlatform {} = .ok files :=
    exists_of_isOk rfl
  obtain ⟨is, ss, his, hss, hvalues, -⟩ := compile_readsBack h
  have hpacked : (commaPath.logInstances .fluentBit).map (fun is =>
      Packed.partsOf "Path" (packed samplePlatform {} is)) = .ok [.list ["/a,b.log"]] := by
    rfl
  have hparts := eq_of_map_eq_ok his hpacked
  have hread : (Packed.valuesOf "Path" ss).map (Packed.read "Path")
      = [some (.list ["/a", "b.log"])] := by
    rw [hvalues "Path" (by decide), hparts]
    rfl
  refine ⟨rfl, files, is, ss, h, his, hss, hparts, hread, fun hback => ?_⟩
  have hsame := hback "Path" (by decide)
  rw [hread, hparts] at hsame
  exact absurd hsame (by decide)

end LogEngine

end Telemetry
