import Telemetry.Proofs.Calls
import Telemetry.Proofs.Lua
import Telemetry.Proofs.SectionOrder

/-!
# Scripts of a compilation

A filter names the file of its script, and a function in it. The files of a compilation are the two
section files and the scripts, each under the hash of its text.

* **`LogInstance.calls_found`** — which functions that an instance calls are in their scripts.
* **`LogEngine.Parts.get?_files`** — the files of a run.
* **`LogEngine.compile_scripts`** — each script that a filter names is there, under its hash, and
  has the function, if the field to parse can stand in quotation marks as it is. It is not quoted,
  and **`LogEngine.compile_brokenScript`** has a script that cannot be loaded.
-/

namespace Telemetry

open Failing

/-! ## Names of scripts -/

/-- A content hash as text: 32 digits. -/
def IsHash (s : String) : Prop :=
  s.toList.length = 32 ∧ ∀ c ∈ s.toList, c ∈ "0123456789abcdef".toList

theorem isHash_contentHash (s : String) : IsHash (contentHash s) := by
  refine ⟨?_, fun c hc => mem_contentHash hc⟩
  simp [contentHash, Digest.hexWord]

/-! ## Scripts that are called -/

/-- The function that is called is in the script. -/
def Call.Found (x : Call) : Prop :=
  Lua.defines x.script x.function = true

/-- The script puts fields aside, all but one that cannot stand in quotation marks as it is. -/
def Call.IsFor (x : Call) (field : String) : Prop :=
  x.script = Script.nest field ∧ ¬ Lua.Inside field

/-- The field that a processor parses. -/
def LogProcessor.parsedField? : LogProcessor → Option String
  | configured (.parseJson p) => some (Filter.parseKey p.field)
  | configured (.parseRegex p) => some (Filter.parseKey p.field)
  | _ => none

/-- Of the two scripts around a parser, only the first can be without its function. -/
theorem Calls.aroundParser_found (field : Option String) :
    ∀ x ∈ Calls.aroundParser field, x.Found ∨ x.IsFor (Filter.parseKey field) := by
  refine List.forall_mem_cons.mpr ⟨?_, List.forall_mem_singleton.mpr (.inl Lua.merge_defines)⟩
  by_cases h : Lua.Inside (Filter.parseKey field)
  · exact .inl (Lua.nest_defines h)
  · exact .inr ⟨rfl, h⟩

theorem LogReceiver.calls_found {r : LogReceiver} : ∀ x ∈ r.calls, x.Found := by
  intro x hx
  unfold LogReceiver.calls at hx
  split at hx
  · obtain rfl := List.mem_singleton.mp hx
    exact Lua.stripNewline_defines
  · exact nomatch hx

namespace LogProcessor

theorem calls_found {p : LogProcessor} :
    ∀ x ∈ p.calls, x.Found ∨ ∃ field, p.parsedField? = some field ∧ x.IsFor field := by
  intro x hx
  unfold calls at hx
  split at hx
  · exact (Calls.aroundParser_found _ x hx).imp_right fun h => ⟨_, rfl, h⟩
  · exact (Calls.aroundParser_found _ x hx).imp_right fun h => ⟨_, rfl, h⟩
  · exact nomatch hx

/-- Of an application's log, messages are parsed. -/
theorem forApp_parsedField? {app : AppLog} {p : LogProcessor} (h : p ∈ forApp app) {field : String}
    (hfield : p.parsedField? = some field) : field = "message" := by
  cases app <;> simp only [forApp, ofApp, List.mem_pair] at h <;> rcases h with rfl | rfl <;>
    first | exact (Option.some.inj hfield).symm | cases hfield

end LogProcessor

/-- **Which calls find their function:** all of an instance, but for those around the parser of a
listed processor whose field cannot stand in quotation marks as it is. -/
theorem LogInstance.calls_found {i : LogInstance} : ∀ x ∈ i.simplify.calls,
    x.Found ∨ ∃ b ∈ i.processors, ∃ field, b.processor.parsedField? = some field ∧
      x.IsFor field := by
  intro x hx
  rcases List.mem_append.mp hx with hx | hx
  · rcases List.mem_append.mp hx with hx | hx
    · exact .inl (LogReceiver.calls_found x hx)
    · obtain ⟨b, hb, hx⟩ := List.mem_flatMap.mp hx
      rw [simplify_processors] at hb
      have hexpand : b ∈ i.expand.processors := (LogReceiver.absorbAll_suffix _ _).mem hb
      rcases LogProcessor.calls_found x hx with hfound | ⟨field, hfield, hfor⟩
      · exact .inl hfound
      · rcases expand_processor_cases hexpand with ⟨hlisted, -⟩ | ⟨app, happ⟩
        · exact .inr ⟨b, hlisted, field, hfield, hfor⟩
        · -- a field that came with the application
          rw [LogProcessor.forApp_parsedField? happ hfield] at hfor
          exact absurd Lua.inside_message hfor.2
  · split at hx
    · obtain rfl := List.mem_singleton.mp hx
      exact .inl Lua.addLogName_defines
    · exact nomatch hx

/-! ## Files -/

namespace LogEngine

variable {c : Config} {p : Platform} {o : CompileOptions} {is : List LogInstance}
  {own : List (List Section)} {ss : List Section}

namespace Parts

/-- A filter that is written and has a script calls one of the scripts of the run. -/
theorem exists_call (h : Parts c p o is own ss) {s : Section} (hs : s ∈ collected ss)
    (hk : s.kind = .filter) (hscript : s.values "script" ≠ []) :
    ∃ x ∈ callsOf is, s.values "script" = [Script.fileName x.script] ∧
      s.values "call" = [x.function] := by
  -- the filters that are written are those of the instances
  have hown : s ∈ own.flatten.filter (·.kind = .filter) :=
    h.filters_eq ▸ List.mem_filter.mpr ⟨hs, by simpa using hk⟩
  have hcall : (s.values "script", s.values "call") ∈ own.flatten.filterMap Section.call? :=
    List.mem_filterMap.mpr ⟨s, (List.mem_filter.mp hown).1, if_pos ⟨hk, hscript⟩⟩
  rw [h.calls.filters] at hcall
  obtain ⟨x, hx, he⟩ := List.mem_map.mp hcall
  obtain ⟨hvalues, hfunction⟩ := Prod.mk.inj he
  exact ⟨x, hx, hvalues.symm, hfunction.symm⟩

/-- Each script of the run is called by a filter that is written. -/
theorem exists_filter (h : Parts c p o is own ss) {x : Call} (hx : x ∈ callsOf is) :
    ∃ s ∈ collected ss, s.kind = .filter ∧ s.values "script" = [Script.fileName x.script] ∧
      s.values "call" = [x.function] := by
  have hcall : ([Script.fileName x.script], [x.function]) ∈
      own.flatten.filterMap Section.call? := by
    rw [h.calls.filters]
    exact List.mem_map.mpr ⟨x, hx, rfl⟩
  obtain ⟨s, hs, he⟩ := List.mem_filterMap.mp hcall
  rw [Section.call?] at he
  split at he
  · rename_i hfilter
    obtain ⟨hvalues, hfunction⟩ := Prod.mk.inj (Option.some.inj he)
    have hmem : s ∈ (collected ss).filter (·.kind = .filter) := by
      rw [h.filters_eq]
      exact List.mem_filter.mpr ⟨hs, by simpa using hfilter.1⟩
    exact ⟨s, (List.mem_filter.mp hmem).1, hfilter.1, hvalues, hfunction⟩
  · cases he

/-- **The files of a run:** the two section files, and the scripts under their names. -/
theorem get?_files (h : Parts c p o is own ss) {vars : Keyed String} {files : Files}
    (hlayout : Section.layout vars (collected ss) = .ok files) {name contents : String}
    (hmain : name ≠ Section.mainFile) (hparser : name ≠ Section.parserFile) :
    files.get? name = some contents ↔
      ∃ x ∈ callsOf is, name = Script.fileName x.script ∧ contents = x.script := by
  rw [get?_layout_of_ne hlayout hmain hparser, h.filterMap_file?, h.calls.files, List.mem_map]
  constructor
  · rintro ⟨x, hx, he⟩
    obtain ⟨rfl, rfl⟩ := Prod.mk.inj he
    exact ⟨x, hx, rfl, rfl⟩
  · rintro ⟨x, hx, rfl, rfl⟩
    exact ⟨x, hx, rfl⟩

/-- A script of the run is in the files, under its name. -/
theorem get?_script (h : Parts c p o is own ss) {vars : Keyed String} {files : Files}
    (hlayout : Section.layout vars (collected ss) = .ok files) {x : Call} (hx : x ∈ callsOf is) :
    files.get? (Script.fileName x.script) = some x.script :=
  (h.get?_files hlayout (Script.fileName_ne (by decide)) (Script.fileName_ne (by decide))).mpr
    ⟨x, hx, rfl, rfl⟩

/-- The names of the files are those of the two section files, and those that filters have for their
scripts. -/
theorem mem_keys_iff (h : Parts c p o is own ss) {vars : Keyed String} {files : Files}
    (hlayout : Section.layout vars (collected ss) = .ok files) {name : String} :
    name ∈ files.keys ↔ name = Section.mainFile ∨ name = Section.parserFile ∨
      ∃ s ∈ collected ss, s.kind = .filter ∧ name ∈ s.values "script" := by
  have hfile : ∀ s ∈ collected ss, s.kind = .filter → name ∈ s.values "script" →
      ∃ x ∈ callsOf is, name = Script.fileName x.script := by
    intro s hs hk hname
    obtain ⟨x, hx, hvalues, -⟩ := h.exists_call hs hk (List.ne_nil_of_mem hname)
    rw [hvalues] at hname
    exact ⟨x, hx, List.mem_singleton.mp hname⟩
  constructor
  · intro hname
    by_cases hmain : name = Section.mainFile
    · exact .inl hmain
    by_cases hparser : name = Section.parserFile
    · exact .inr (.inl hparser)
    obtain ⟨contents, hget⟩ := Keyed.mem_keys_iff.mp hname
    obtain ⟨x, hx, rfl, -⟩ := (h.get?_files hlayout hmain hparser).mp hget
    obtain ⟨s, hs, hk, hvalues, -⟩ := h.exists_filter hx
    exact .inr (.inr ⟨s, hs, hk, hvalues ▸ List.mem_singleton_self _⟩)
  · have hsections : Section.mainFile ∈ files.keys ∧ Section.parserFile ∈ files.keys := by
      obtain ⟨others, -, rfl⟩ := layout_eq_ok hlayout
      rw [Keyed.mem_keys_insert, Keyed.mem_keys_insert, Keyed.mem_keys_insert]
      exact ⟨.inr (.inl rfl), .inl rfl⟩
    rintro (rfl | rfl | ⟨s, hs, hk, hname⟩)
    · exact hsections.1
    · exact hsections.2
    · obtain ⟨x, hx, rfl⟩ := hfile s hs hk hname
      exact Keyed.mem_keys_iff.mpr ⟨_, h.get?_script hlayout hx⟩

end Parts

/-! ## Scripts that can be loaded -/

/-- **Scripts and their names.** The files of a compilation are the main file, the parser file, and
those that filters name for their scripts. Each of the latter is named by 32 hexadecimal digits,
which are the hash of its text. The filter calls one function, and the script has it, unless the
script is for the parser of a listed processor whose field cannot stand in quotation marks as it
is. -/
theorem compile_scripts {files : Files} (h : compile c p o = .ok files) :
    ∃ is ss, c.logInstances .fluentBit = .ok is ∧ emittedSections c p o = .ok ss ∧
      Section.layout (mainVariables p.buffersDir p.logsDir) ss = .ok files ∧
      (∀ name, name ∈ files.keys ↔ name = Section.mainFile ∨ name = Section.parserFile ∨
        ∃ s ∈ ss, s.kind = .filter ∧ name ∈ s.values "script") ∧
      ∀ s ∈ ss, s.kind = .filter → ∀ name ∈ s.values "script",
        ∃ hash script function, name = hash ++ ".lua" ∧ IsHash hash ∧ hash = contentHash script ∧
          files.get? name = some script ∧
          s.values "script" = [name] ∧ s.values "call" = [function] ∧
          (Lua.defines script function = true ∨
            ∃ i ∈ is, ∃ b ∈ i.processors, ∃ field, b.processor.parsedField? = some field ∧
              script = Script.nest field ∧ ¬ Lua.Inside field) := by
  obtain ⟨is, own, ss, his, hparts, hemitted, hlayout, -, -⟩ := parts_of_compile h
  refine ⟨is, collected ss, his, hemitted, hlayout, fun name => hparts.mem_keys_iff hlayout, ?_⟩
  intro s hs hk name hname
  obtain ⟨x, hx, hvalues, hfunction⟩ := hparts.exists_call hs hk (List.ne_nil_of_mem hname)
  rw [hvalues] at hname
  obtain rfl := List.mem_singleton.mp hname
  obtain ⟨i, hi, hcall⟩ := List.mem_flatMap.mp hx
  refine ⟨contentHash x.script, x.script, x.function, rfl, isHash_contentHash _, rfl,
    hparts.get?_script hlayout hx, hvalues, hfunction, ?_⟩
  exact (LogInstance.calls_found x hcall).imp_right fun hfor => ⟨i, hi, hfor⟩

/-- Messages that are parsed, of files and of clients that write a part of the tag. -/
def calledScripts : Config where
  logging := some {
    receivers := .ofList [("f", .files { includePaths := ["/a.log"] }), ("r", .forward none none)]
    processors := .ofList [("json", .parseJson {})]
    pipelines := .ofList [("p", { receivers := ["f", "r"], processors := ["json"] })] }

/-- The scripts of `calledScripts` have the functions that are called. -/
theorem compile_scripts_calledScripts :
    ∃ files, compile calledScripts samplePlatform {} = .ok files ∧
      ∃ ss, emittedSections calledScripts samplePlatform {} = .ok ss ∧
        ∀ s ∈ ss, s.kind = .filter → ∀ name ∈ s.values "script",
          ∃ script function, name = contentHash script ++ ".lua" ∧ files.get? name = some script ∧
            s.values "call" = [function] ∧ Lua.defines script function = true := by
  obtain ⟨files, h⟩ : ∃ files, compile calledScripts samplePlatform {} = .ok files :=
    exists_files hashSeparates_sampleScripts (by decide +kernel) rfl
  obtain ⟨is, ss, his, hemitted, -, -, hscripts⟩ := compile_scripts h
  have hmessages : (calledScripts.logInstances .fluentBit).map (fun is =>
      is.all fun i => i.processors.all fun b => b.processor.parsedField? = some "message")
        = .ok true := by
    rfl
  refine ⟨files, h, ss, hemitted, ?_⟩
  intro s hs hk name hname
  obtain ⟨hash, script, function, rfl, -, rfl, hget, -, hcall, hdefines⟩ :=
    hscripts s hs hk name hname
  refine ⟨script, function, rfl, hget, hcall, hdefines.resolve_right ?_⟩
  rintro ⟨i, hi, b, hb, field, hfield, -, hinside⟩
  have hall := eq_of_map_eq_ok his hmessages
  have hmessage := of_decide_eq_true (List.all_eq_true.mp (List.all_eq_true.mp hall i hi) b hb)
  obtain rfl := Option.some.inj (hfield.symm.trans hmessage)
  exact hinside Lua.inside_message

/-- A field with a quotation mark is parsed. -/
def quotedField : Config where
  logging := some {
    receivers := .ofList [("f", .files { includePaths := ["/a.log"] })]
    processors := .ofList [("json", .parseJson { field := some "a\"b" })]
    pipelines := .ofList [("p", { receivers := ["f"], processors := ["json"] })] }

/-- **A field to parse is not quoted in its script:** a line ends within a text, so that the script
cannot be loaded, and the function that a filter calls is not there. -/
theorem compile_brokenScript : quotedField.check = .ok () ∧
    ∃ files, compile quotedField samplePlatform {} = .ok files ∧
      ∃ ss, emittedSections quotedField samplePlatform {} = .ok ss ∧
        ∃ s ∈ ss, s.kind = .filter ∧ ∃ name script, s.values "script" = [name] ∧
          s.values "call" = ["parser_nest"] ∧ files.get? name = some script ∧
          Lua.tokens script.toList = .error .openText ∧
          Lua.defines script "parser_nest" = false := by
  obtain ⟨files, h⟩ : ∃ files, compile quotedField samplePlatform {} = .ok files :=
    exists_files hashSeparates_sampleScripts (by decide +kernel) rfl
  obtain ⟨is, own, ss, his, hparts, hemitted, hlayout, -, -⟩ := parts_of_compile h
  have hcalls : (quotedField.logInstances .fluentBit).map (fun is =>
      (callsOf is).contains ⟨"parser_nest", Script.nest "a\"b"⟩) = .ok true := by
    decide +kernel
  have hcontains := eq_of_map_eq_ok his hcalls
  have hcall : ⟨"parser_nest", Script.nest "a\"b"⟩ ∈ callsOf is :=
    List.contains_iff_mem.mp hcontains
  obtain ⟨s, hs, hk, hvalues, hfunction⟩ := hparts.exists_filter hcall
  have htokens : Lua.tokens (Script.nest "a\"b").toList = .error .openText := by
    rw [Script.nest, Lua.toList_unlines]
    simp only [List.flatMap_cons, List.flatMap_nil, String.toList_append]
    repeat rw [Lua.toList_of_eq rfl]
    decide +kernel
  have hdefines : Lua.defines (Script.nest "a\"b") "parser_nest" = false := by
    rw [Lua.defines, Lua.functions, htokens]
    rfl
  exact ⟨rfl, files, h, collected ss, hemitted, s, hs, hk, _, _, hvalues, hfunction,
    hparts.get?_script hlayout hcall, htokens, hdefines⟩

end LogEngine

end Telemetry
