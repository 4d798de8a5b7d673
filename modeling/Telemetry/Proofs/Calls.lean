import Telemetry.Proofs.Outcome
import Telemetry.Proofs.SectionOrder
import Telemetry.Proofs.Wiring

/-!
# Scripts and nests

Two kinds of filters need a partner. A filter with a script calls a function of it, so that a file
with the script has to be there; and a filter that nests fields puts them under a key for which some
output has to look.

* **`Calls`** — the scripts that sections call, which are the files that they bring along, and their
  nests. Each way to build a section has a rule, and the rules compose along a pipeline.
* **`LogInstance.sections_call`** — the sections of an instance call the scripts of its components,
  and have one nest for each processor that gathers a request.
* **`LogEngine.exists_files`** — a run has its files where the content hash tells these scripts
  apart.
-/

namespace Telemetry

open Failing

/-- A function of a script. -/
structure Call where
  function : String
  script : String
  deriving DecidableEq

/-- The script of a filter and the function of it that is called, each as often as the filter has
it. -/
def Section.call? (s : Section) : Option (List String × List String) :=
  if s.kind = .filter ∧ s.values "script" ≠ [] then some (s.values "script", s.values "call")
  else none

/-- A filter that gathers fields under a key. -/
def Section.isNest (s : Section) : Bool :=
  s.kind = .filter ∧ s.values "Name" = ["nest"]

/-- The filters call exactly some scripts, one after the other; the files are those scripts, each
under its name; and these are the nests. -/
structure Calls (ss : List Section) (calls : List Call) (nests : List Section) : Prop where
  filters : ss.filterMap Section.call?
    = calls.map fun x => ([Script.fileName x.script], [x.function])
  files : ss.filterMap Section.file? = calls.map fun x => (Script.fileName x.script, x.script)
  nests : ss.filter Section.isNest = nests

namespace Calls

variable {ss ss' : List Section} {calls calls' : List Call} {nests nests' : List Section}

theorem nil : Calls [] [] [] := ⟨rfl, rfl, rfl⟩

/-- Sections one behind the other call the scripts of both. -/
theorem append (h : Calls ss calls nests) (h' : Calls ss' calls' nests') :
    Calls (ss ++ ss') (calls ++ calls') (nests ++ nests') := by
  refine ⟨?_, ?_, ?_⟩
  · rw [List.filterMap_append, h.filters, h'.filters, List.map_append]
  · rw [List.filterMap_append, h.files, h'.files, List.map_append]
  · rw [List.filter_append, h.nests, h'.nests]

/-- One more section in front that neither calls a script nor nests. -/
theorem cons {s : Section} (h : Calls [s] [] []) (h' : Calls ss calls nests) :
    Calls (s :: ss) calls nests :=
  h.append h'

theorem flatten {α : Type} {calls : α → List Call} {nests : α → List Section} {as : List α}
    {parts : List (List Section)}
    (h : List.Forall₂ (fun a part => Calls part (calls a) (nests a)) as parts) :
    Calls parts.flatten (as.flatMap calls) (as.flatMap nests) := by
  induction h with
  | nil => exact nil
  | cons ha _ ih => exact ha.append ih

theorem of_forall_silent (h : ∀ s ∈ ss, Calls [s] [] []) : Calls ss [] [] := by
  induction ss with
  | nil => exact nil
  | cons s ss ih =>
      obtain ⟨hs, hss⟩ := List.forall_mem_cons.mp h
      exact hs.cons (ih hss)

/-! ## One section -/

/-- Sections of other kinds call nothing. -/
theorem other {s : Section} (hfilter : s.kind ≠ .filter) (hfile : s.kind ≠ .file) :
    Calls [s] [] [] := by
  refine ⟨?_, ?_, ?_⟩
  · simp [Section.call?, hfilter]
  · simp [Section.file?, hfile]
  · simp [Section.isNest, hfilter]

/-- A filter without a script that is no nest. -/
theorem silent {s : Section} (hk : s.kind = .filter) (hscript : s.values "script" = [])
    (hname : s.values "Name" ≠ ["nest"]) : Calls [s] [] [] := by
  refine ⟨?_, ?_, ?_⟩
  · simp [Section.call?, hscript]
  · simp [Section.file?, hk]
  · simp [Section.isNest, hname]

theorem modify (routing : String) (ops : List Filter.ModifyOp) :
    Calls [Filter.modify routing ops] [] [] := by
  have hentry : ∀ key ∈ ["script", "Name"], ∀ op : Filter.ModifyOp, op.entry.1 ≠ key := by
    intro key hkey op
    cases op <;> simp [Filter.ModifyOp.entry] <;> rintro rfl <;> simp at hkey
  have hscript := Carries.filter_entries_eq_nil (hentry "script" (by simp)) ops
  have hname := Carries.filter_entries_eq_nil (hentry "Name" (by simp)) ops
  refine silent (Filter.kind_modify _ _) ?_ ?_
  · simp [Section.values_eq, Filter.modify, Filter.named, Section.ofFields, hscript]
  · simp [Section.values_eq, Filter.modify, Filter.named, Section.ofFields, hname]

theorem modifyIf (routing condition : String) (op : Filter.ModifyOp) :
    Calls [Filter.modifyIf routing condition op] [] [] := by
  refine silent (Filter.kind_modifyIf _ _ _) ?_ ?_ <;> cases op <;>
    simp [Section.values_eq, Filter.modifyIf, Filter.named, Section.ofFields,
      Filter.ModifyOp.entry]

theorem mapValues (routing source target : String) (table : List (String × String)) :
    Calls (Filter.mapValues routing source target false table) [] [] := by
  refine of_forall_silent ?_
  intro s hs
  obtain ⟨⟨old, new⟩, -, rfl⟩ := List.mem_map.mp hs
  exact modifyIf routing (Filter.keyEquals source old) (.add target new)

theorem exclude (routing : String) (rules : List (String × String)) :
    Calls [Filter.exclude routing rules] [] [] := by
  have key : ∀ k, "Exclude" ≠ k →
      (rules.map fun r => ("Exclude", r.1 ++ " " ++ r.2)).filter (·.1 = k) = [] :=
    fun k hk => Carries.filter_entries_eq_nil (fun _ => hk) rules
  rw [Filter.exclude]
  split <;> refine silent (by simp [Filter.named]) ?_ ?_ <;>
    simp [Section.values_eq, Filter.named, Section.ofFields, key]

theorem parse (routing field : String) (parsers : List String) (preserveKey : Bool) :
    Calls [Filter.parse routing field parsers preserveKey] [] [] := by
  have key : ∀ k, "Parser" ≠ k → (parsers.map fun p => ("Parser", p)).filter (·.1 = k) = [] :=
    fun k hk => Carries.filter_entries_eq_nil (fun _ => hk) parsers
  refine silent (Filter.kind_parse _ _ _ _) ?_ ?_ <;> cases preserveKey <;>
    simp [Section.values_eq, Filter.parse, Filter.named, Section.ofFields, key]

theorem joinLines (routing parser : String) : Calls [Filter.joinLines routing parser] [] [] := by
  refine silent (Filter.kind_joinLines _ _) ?_ ?_ <;>
    simp [Section.values_eq, Filter.joinLines, Filter.named, Section.ofFields]

theorem lineParser (name : String) (rules : List Filter.LineRule) :
    Calls [Filter.lineParser name rules] [] [] :=
  other (by simp) (by simp)

theorem parserDef (d : ParserDef) : Calls [d.toSection] [] [] :=
  other (by simp [Carries.kind_parserDef]) (by simp [Carries.kind_parserDef])

theorem nestFields (routing wildcard under head : String) :
    Calls [Filter.nestFields routing wildcard under head] []
      [Filter.nestFields routing wildcard under head] := by
  have hscript : (Filter.nestFields routing wildcard under head).values "script" = [] := by
    simp [Section.values_eq, Filter.nestFields, Filter.named, Section.ofFields]
  have hname : (Filter.nestFields routing wildcard under head).values "Name" = ["nest"] := by
    simp [Section.values_eq, Filter.nestFields, Filter.named, Section.ofFields]
  refine ⟨?_, ?_, ?_⟩
  · simp [Section.call?, hscript]
  · simp [Section.file?]
  · simp [Section.isNest, hname]

/-- **A filter with a script brings the script along.** -/
theorem scriptFilter (routing function script : String) :
    Calls (Script.filter routing function script) [⟨function, script⟩] [] := by
  refine ⟨?_, ?_, ?_⟩ <;>
    simp [Script.filter, Section.call?, Section.file?, Section.isNest, Section.values_eq,
      Section.ofFile, Section.ofFields]

/-- The calls around a parser. -/
def aroundParser (field : Option String) : List Call :=
  [⟨"parser_nest", Script.nest (Filter.parseKey field)⟩, ⟨"parser_merge_record", Script.merge⟩]

theorem parseChain (routing : String) (field : Option String) (parsers : List String)
    (preserveKey : Bool) :
    Calls (Filter.parseChain routing field parsers preserveKey) (aroundParser field) [] :=
  (scriptFilter routing "parser_nest" _).append
    ((parse routing _ parsers preserveKey).cons (scriptFilter routing "parser_merge_record" _))

end Calls

/-! ## Components -/

/-- The filter that gathers the fields of a request. -/
def requestNest (routing : String) : Section :=
  Filter.nestFields routing "http_request_*" "logging.googleapis.com/http_request" "http_request_"

namespace LogProcessor

/-- The scripts that a processor calls. -/
def calls : LogProcessor → List Call
  | configured (.parseJson p) => Calls.aroundParser p.field
  | configured (.parseRegex p) => Calls.aroundParser p.field
  | _ => []

/-- Whether a processor gathers the fields of a request. -/
def gathers : LogProcessor → Bool
  | httpRequest => true
  | _ => false

/-- **What a processor calls.** -/
theorem sections_call {p : LogProcessor} {tag : Tag} {uid : String} {ss : List Section}
    (h : p.sections? tag uid = some ss) :
    Calls ss p.calls (if p.gathers then [requestNest tag.routing] else []) := by
  match p with
  | configured (.parseJson q) =>
      obtain rfl := Option.some.inj h
      exact (Calls.parserDef (q.parser uid)).cons (Calls.parseChain _ q.field _ _)
  | configured (.parseRegex q) =>
      obtain rfl := Option.some.inj h
      exact (Calls.parserDef (q.parser uid)).cons (Calls.parseChain _ q.field _ _)
  | configured (.parseMultiline gs) =>
      obtain rfl := Option.some.inj h
      exact (Calls.lineParser _ _).cons (Calls.joinLines _ _)
  | configured (.excludeLogs rs) =>
      obtain rfl := Option.some.inj h
      exact Calls.exclude _ _
  | configured (.modifyFields m) =>
      obtain rfl := Option.some.inj h
      refine Calls.append (Calls.of_forall_silent ?_) (Calls.of_forall_silent ?_)
      · split
        · exact List.forall_mem_nil _
        · exact List.forall_mem_singleton.mpr (Calls.modify _ _)
      · intro s hs
        obtain ⟨⟨field, change⟩, -, hs⟩ := List.mem_flatMap.mp hs
        obtain ⟨⟨old, new⟩, -, rfl⟩ := List.mem_map.mp hs
        exact Calls.modifyIf _ _ _
  | configured (.app _) => exact nomatch h
  | builtinParser name =>
      obtain rfl := Option.some.inj h
      exact Calls.parse _ _ _ _
  | severity source table =>
      obtain rfl := Option.some.inj h
      exact Calls.mapValues _ _ _ _
  | httpRequest =>
      obtain rfl := Option.some.inj h
      refine (Calls.of_forall_silent ?_).append (Calls.nestFields _ _ _ _)
      intro s hs
      obtain ⟨field, -, rfl⟩ := List.mem_map.mp hs
      exact Calls.modifyIf _ _ _

end LogProcessor

/-- The sections for files call a script where the input joins lines. -/
theorem FileSource.sections_call (s : FileSource) (rules : List Filter.LineRule) (tag : Tag) :
    Calls (s.sections rules tag)
      (if rules.isEmpty then [] else [⟨"strip_newline", Script.stripNewline⟩]) [] := by
  have hinput : ∀ parser, Calls ((s.input parser).section? tag).toList [] [] := by
    intro parser
    cases hs : (s.input parser).section? tag with
    | none => exact Calls.nil
    | some input =>
        have hk := Input.Tail.kind_of_section? hs
        exact Calls.other (by simp [hk]) (by simp [hk])
  rw [sections]
  split
  · exact hinput none
  · exact (Calls.lineParser _ rules).cons ((Calls.modify tag.routing [.rename "log" "message"]).cons
      ((Calls.scriptFilter tag.routing "strip_newline" _).append (hinput _)))

namespace LogReceiver

/-- The scripts that a receiver calls. -/
def calls : LogReceiver → List Call
  | tail _ (_ :: _) => [⟨"strip_newline", Script.stripNewline⟩]
  | _ => []

/-- **What a receiver calls.** -/
theorem sections_call {r : LogReceiver} {tag : Tag} {ss : List Section}
    (h : r.sections? tag = some ss) : Calls ss r.calls [] := by
  have hinput : ∀ {s : Section}, s.kind = .input → Calls [s] [] [] := by
    intro s hk
    exact Calls.other (by simp [hk]) (by simp [hk])
  match r with
  | configured (.files s) =>
      obtain rfl := Option.some.inj h
      exact s.sections_call [] tag
  | configured (.syslog transport host port) =>
      obtain rfl := Option.some.inj h
      exact (hinput (by simp [Input.buffered])).cons (Calls.other (by simp) (by simp))
  | configured (.tcp host port format) =>
      obtain rfl := Option.some.inj h
      exact hinput (by simp [Input.tcp, Input.buffered])
  | configured (.forward host port) =>
      obtain rfl := Option.some.inj h
      exact hinput (by simp [Input.forward, Input.buffered])
  | configured (.eventLog channels) =>
      obtain rfl := Option.some.inj h
      exact (hinput (by simp [Input.eventLog])).cons ((Calls.parserDef _).cons
        ((Calls.parse _ _ _ _).cons (Calls.mapValues _ _ _ _)))
  | configured (.app _ _) => cases h
  | tail s [] =>
      obtain rfl := Option.some.inj h
      exact s.sections_call [] tag
  | tail s (rule :: rules) =>
      obtain rfl := Option.some.inj h
      exact s.sections_call (rule :: rules) tag

end LogReceiver

/-! ## Instances -/

namespace LogInstance

/-- The scripts that an instance calls: those of its components, and that for the part of the tag
which clients write. -/
def calls (i : LogInstance) : List Call :=
  i.receiver.calls ++ i.processors.flatMap (·.processor.calls)
    ++ if i.tag.dynamic then [⟨"add_log_name", Script.addLogName⟩] else []

/-- The nests of an instance, one for each processor that gathers a request. -/
def nests (i : LogInstance) : List Section :=
  i.processors.flatMap fun b => if b.processor.gathers then [requestNest i.tag.routing] else []

/-- **What an instance calls.** -/
theorem sections_call {i : LogInstance} {p : Platform} {ss : List Section}
    (h : i.sections p = .ok ss) : Calls ss i.calls i.nests := by
  obtain ⟨receiver, parts, hreceiver, hparts, rfl⟩ := sections_eq_ok.mp h
  have hprocessors : Calls parts.flatten
      (i.processors.zipIdx.flatMap fun x => x.1.processor.calls)
      (i.processors.zipIdx.flatMap fun x =>
        if x.1.processor.gathers then [requestNest i.tag.routing] else []) :=
    Calls.flatten (hparts.imp fun _ _ hpart => LogProcessor.sections_call hpart)
  have hclosing : Calls (i.closingSections i.tag p)
      (if i.tag.dynamic then [⟨"add_log_name", Script.addLogName⟩] else []) [] := by
    refine (Calls.modify _ _).cons ?_
    split
    · exact Calls.scriptFilter _ _ _
    · exact Calls.nil
  -- the numbers of the processors have no say
  have hnumbers : ∀ {β : Type} (f : Binding → List β),
      i.processors.zipIdx.flatMap (fun x => f x.1) = i.processors.flatMap f := by
    intro β f
    rw [← List.flatMap_map, List.zipIdx_map_fst]
  have hall := ((LogReceiver.sections_call hreceiver).append hprocessors).append hclosing
  rw [hnumbers fun b => b.processor.calls,
    hnumbers fun b => if b.processor.gathers then [requestNest i.tag.routing] else [],
    List.nil_append, List.append_nil] at hall
  exact hall

end LogInstance

/-! ## Runs -/

namespace LogEngine

variable {c : Config} {p : Platform} {o : CompileOptions}

/-- All scripts that the filters of a run call. -/
def callsOf (is : List LogInstance) : List Call :=
  is.flatMap (·.simplify.calls)

/-- The filters of a run call the scripts of its instances, and bring them along. -/
theorem Parts.calls {is : List LogInstance} {own : List (List Section)} {ss : List Section}
    (h : Parts c p o is own ss) :
    Calls own.flatten (callsOf is) (is.flatMap (·.simplify.nests)) :=
  Calls.flatten (h.each.imp fun _ _ hpart => LogInstance.sections_call hpart.1)

/-- **Emitted sections have their files** where the content hash tells the scripts of the instances
apart. -/
theorem exists_files {scripts : List String} (hash : HashSeparates scripts)
    (hrun : (c.logInstances .fluentBit).map (fun is => (callsOf is).all (·.script ∈ scripts))
      = .ok true)
    (hemitted : (emittedSections c p o).isOk = true) : ∃ files, compile c p o = .ok files := by
  cases his : c.logInstances .fluentBit with
  | error e =>
      rw [his] at hrun
      exact nomatch hrun
  | ok is =>
      rw [his] at hrun
      have hmem : ∀ x ∈ callsOf is, x.script ∈ scripts := by
        intro x hx
        exact of_decide_eq_true (List.all_eq_true.mp (Except.ok.inj hrun) x hx)
      obtain ⟨own, ss, hparts, hss⟩ := sections_eq_ok (p := p) (o := o) his
      obtain ⟨ss', hcollected⟩ := exists_of_isOk hemitted
      obtain ⟨ss₁, hss₁, hcollect⟩ := bind_eq_ok.mp hcollected
      obtain rfl := Except.ok.inj (hss.symm.trans hss₁)
      obtain ⟨-, -, rfl⟩ :=
        (collectParsers_eq_ok fun s hs hk => (hparts.inRun s hs).values_name hk).mp
          (mapError_eq_ok.mp hcollect)
      have hcontents : ∀ text ∈ fileContents ss, text ∈ scripts := by
        intro text htext
        obtain ⟨s, hs, hf⟩ := List.mem_filterMap.mp htext
        obtain ⟨⟨name, contents⟩, hfile, rfl⟩ := Option.map_eq_some_iff.mp hf
        have hown : (name, contents) ∈ own.flatten.filterMap Section.file? :=
          hparts.filterMap_file? ▸ List.mem_filterMap.mpr ⟨s, mem_collected_of_mem hs, hfile⟩
        rw [hparts.calls.files] at hown
        obtain ⟨x, hx, he⟩ := List.mem_map.mp hown
        obtain ⟨-, rfl⟩ := Prod.mk.inj he
        exact hmem x hx
      exact compile_ok hparts (fun a ha b hb => hash a (hcontents a ha) b (hcontents b hb))
        hcollected

end LogEngine

end Telemetry
