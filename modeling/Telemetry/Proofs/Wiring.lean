import Telemetry.Proofs.InstanceTexts
import Telemetry.Proofs.Run

/-!
# How an instance is wired

The records of an instance come in through one input, which puts the tag of the instance on them,
and pass the filters that match this tag. So an instance whose sections are wired well has one input
and no filter that listens to something else; and the last filters, which mark a record with the
instance, stand behind all others.

* **`LogProcessor.kind_ne_input`**, **`LogReceiver.exists_input`** — only the receiver brings an
  input, and it brings one. Receivers for files do so because an accepted one has paths.
* **`Section.Wired`** — one input with the tag, and filters that match it.
* **`LogInstance.sections_wired`** — the sections of a simplified instance of an accepted
  configuration, in order, and that they are wired.
-/

namespace Telemetry

open Failing

/-! ## Only receivers bring inputs -/

namespace Filter

/-- A table of replacements is made of filters. -/
theorem kind_of_mem_mapValues {routing source target : String} {removeSource : Bool}
    {table : List (String × String)} {s : Section}
    (h : s ∈ mapValues routing source target removeSource table) : s.kind = .filter := by
  obtain ⟨row, -, rfl⟩ := List.mem_map.mp h
  cases removeSource <;> rfl

/-- A field is parsed by filters, which bring scripts along. -/
theorem kind_of_mem_parseChain {routing : String} {field : Option String} {parsers : List String}
    {preserveKey : Bool} {s : Section} (h : s ∈ parseChain routing field parsers preserveKey) :
    s.kind = .filter ∨ s.kind = .file := by
  simp only [parseChain, Script.filter, List.mem_append, List.mem_cons, List.not_mem_nil,
    or_false] at h
  rcases h with (rfl | rfl) | rfl | rfl | rfl
  · exact .inl rfl
  · exact .inr rfl
  · exact .inl (kind_parse _ _ _ _)
  · exact .inl rfl
  · exact .inr rfl

end Filter

/-- **A processor brings no input,** only filters, parsers and files. -/
theorem LogProcessor.kind_ne_input {p : LogProcessor} {tag : Tag} {uid : String}
    {ss : List Section} (h : p.sections? tag uid = some ss) : ∀ s ∈ ss, s.kind ≠ .input := by
  have hchain : ∀ field parsers preserveKey,
      ∀ s ∈ Filter.parseChain tag.routing field parsers preserveKey, s.kind ≠ .input := by
    intro field parsers preserveKey s hs
    rcases Filter.kind_of_mem_parseChain hs with hk | hk <;> simp [hk]
  match p with
  | configured (.parseJson q) =>
      obtain rfl := Option.some.inj h
      exact List.forall_mem_cons.mpr ⟨by simp [Carries.kind_parserDef], hchain _ _ _⟩
  | configured (.parseRegex q) =>
      obtain rfl := Option.some.inj h
      exact List.forall_mem_cons.mpr ⟨by simp [Carries.kind_parserDef], hchain _ _ _⟩
  | configured (.parseMultiline gs) =>
      obtain rfl := Option.some.inj h
      simp
  | configured (.excludeLogs rs) =>
      obtain rfl := Option.some.inj h
      simp
  | configured (.modifyFields m) =>
      obtain rfl := Option.some.inj h
      refine List.forall_mem_append.mpr ⟨?_, ?_⟩
      · split <;> simp
      · intro s hs
        obtain ⟨f, -, hs⟩ := List.mem_flatMap.mp hs
        obtain ⟨row, -, rfl⟩ := List.mem_map.mp hs
        simp
  | configured (.app _) => exact nomatch h
  | builtinParser name =>
      obtain rfl := Option.some.inj h
      simp
  | severity source table =>
      obtain rfl := Option.some.inj h
      intro s hs
      simp [Filter.kind_of_mem_mapValues hs]
  | httpRequest =>
      obtain rfl := Option.some.inj h
      refine List.forall_mem_append.mpr ⟨?_, by simp⟩
      intro s hs
      obtain ⟨field, -, rfl⟩ := List.mem_map.mp hs
      simp

theorem Input.Tail.kind_of_section? {t : Input.Tail} {tag : Tag} {s : Section}
    (h : t.section? tag = some s) : s.kind = .input := by
  rw [Input.Tail.section?] at h
  split at h
  · cases h
  · obtain rfl := Option.some.inj h
    split <;> split <;> simp [Input.buffered]

/-- The input for files is there if there are paths. -/
theorem Input.Tail.exists_section {t : Input.Tail} (h : t.includePaths ≠ []) (tag : Tag) :
    ∃ s, t.section? tag = some s := by
  rw [Input.Tail.section?, if_neg (by simpa using h)]
  exact ⟨_, rfl⟩

/-- The sections for files with paths end with their input, which is the only one. -/
theorem FileSource.exists_input {s : FileSource} (h : s.includePaths ≠ [])
    (rules : List Filter.LineRule) (tag : Tag) :
    ∃ input, (s.sections rules tag).filter (·.kind = .input) = [input] := by
  have hinput : ∀ parser, ∃ input, (s.input parser).section? tag = some input ∧
      input.kind = .input := by
    intro parser
    obtain ⟨input, hsome⟩ := Input.Tail.exists_section (t := s.input parser) h tag
    exact ⟨input, hsome, Input.Tail.kind_of_section? hsome⟩
  rw [sections]
  split
  · obtain ⟨input, hsome, hk⟩ := hinput none
    exact ⟨input, by simp [hsome, hk]⟩
  · obtain ⟨input, hsome, hk⟩ := hinput (some ("multiline." ++ tag.base))
    exact ⟨input, by simp [hsome, hk, Script.stripNewlineFilter, Script.filter, Section.ofFile]⟩

/-- The sections for the event log have their input in front, and no other. -/
theorem filter_eventLogSections (tag : Tag) (channels : List String) :
    (eventLogSections tag channels).filter (·.kind = .input) = [Input.eventLog tag channels] := by
  have hmaps : (Filter.mapValues tag.routing "EventType" severityKey false
      eventSeverities).filter (·.kind = .input) = [] := by
    refine Section.filter_kind_eq_nil ?_
    intro s hs
    simp [Filter.kind_of_mem_mapValues hs]
  simp [eventLogSections, Carries.kind_parserDef, hmaps, Input.eventLog]

/-- **A receiver brings one input,** if it does not stand for another and, where it reads files, has
paths. -/
theorem LogReceiver.exists_input {r : LogReceiver} (hr : r.expand? = none)
    (hpaths : ∀ s rules, r = .tail s rules → s.includePaths ≠ []) {tag : Tag} {ss : List Section}
    (h : r.sections? tag = some ss) : ∃ input, ss.filter (·.kind = .input) = [input] := by
  match r with
  | configured (.files s) => cases hr
  | configured (.syslog transport host port) =>
      obtain rfl := Option.some.inj h
      exact ⟨_, by simp [Input.syslog, Input.buffered]; rfl⟩
  | configured (.tcp host port format) =>
      obtain rfl := Option.some.inj h
      exact ⟨_, rfl⟩
  | configured (.forward host port) =>
      obtain rfl := Option.some.inj h
      exact ⟨_, rfl⟩
  | configured (.eventLog channels) =>
      obtain rfl := Option.some.inj h
      exact ⟨Input.eventLog tag channels, filter_eventLogSections tag channels⟩
  | configured (.app a s) => cases hr
  | tail s rules =>
      obtain rfl := Option.some.inj h
      exact FileSource.exists_input (hpaths s rules rfl) rules tag

/-! ## Wired instances -/

/-- Sections are wired to a tag: there is one input, which puts the tag on its records, and all
filters match the tag. -/
structure Section.Wired (tag : Tag) (ss : List Section) : Prop where
  input : ∃ s, ss.filter (·.kind = .input) = [s] ∧ s.values (tagKey tag) = [tag.input]
  filters : ∀ s ∈ ss, s.kind = .filter → s.values "Match" = [tag.routing]

/-- Simplifying keeps the names for what processors bring along. -/
theorem LogInstance.simplify_uid (i : LogInstance) (k : Nat) : i.simplify.uid k = i.uid k := by
  rw [uid, uid, simplify_tag]

/-- The closing filters and their script are no inputs. -/
theorem LogInstance.closingSections_ne_input (i : LogInstance) (tag : Tag) (p : Platform) :
    ∀ s ∈ i.closingSections tag p, s.kind ≠ .input := by
  refine List.forall_mem_cons.mpr ⟨by simp [Filter.identity], ?_⟩
  split <;> simp [Script.addLogNameFilter, Script.filter, Section.ofFile]

variable {c : Config} {engine : LogEngine} {is : List LogInstance}

/-- **How an instance is wired.** Simplified, an instance of an accepted configuration has its
sections: those of the receiver, those of the processors in the order of the list, the filter that
marks records with the instance and, exactly if clients extend the tag, the filter for their part of
it with its script. One of them is an input, which puts the tag of the instance on its records, and
all filters among them match this tag. -/
theorem LogInstance.sections_wired (hc : c.check = .ok ()) (his : c.logInstances engine = .ok is)
    {i : LogInstance} (hi : i ∈ is) (p : Platform) :
    ∃ receiver parts ss, i.simplify.sections p = .ok ss ∧
      i.simplify.receiver.sections? i.tag = some receiver ∧
      List.Forall₂ (fun x part => x.1.processor.sections? i.tag (i.uid x.2) = some part)
        i.simplify.processors.zipIdx parts ∧
      ss = receiver ++ parts.flatten
        ++ Filter.identity i.tag.routing i.pipeline i.receiverId p.hostname
        :: (if i.tag.dynamic then Script.addLogNameFilter i.tag.routing else []) ∧
      Section.Wired i.tag ss := by
  obtain ⟨l, hl, hbound⟩ := (Config.logInstances_eq_ok his).2 i hi
  have hl := Config.logging_accepted hc hl
  obtain ⟨ss, hss, -⟩ := i.simplify_plain.sections_carries p
  obtain ⟨receiver, parts, hreceiver, hparts, hconcat⟩ := sections_eq_ok.mp hss
  have haddressed := (writes hss).addressed
  rw [simplify_tag] at hreceiver haddressed
  simp only [simplify_tag, simplify_uid] at hparts
  refine ⟨receiver, parts, ss, hss, hreceiver, hparts, ?_, ?_⟩
  · rw [← hconcat, closingSections, simplify_tag]
    rfl
  -- the only input is that of the receiver, because no other component brings one
  obtain ⟨input, hinput⟩ := LogReceiver.exists_input i.simplify_plain.receiver
    (fun _ _ hs => simplify_includePaths hl hbound hs) hreceiver
  have hprocessors : ∀ s ∈ parts.flatten, s.kind ≠ .input := by
    intro s hs
    obtain ⟨part, hpart, hs⟩ := List.mem_flatten.mp hs
    obtain ⟨x, -, hx⟩ := exists_of_mem_forall₂ hparts hpart
    exact LogProcessor.kind_ne_input hx s hs
  have hone : ss.filter (·.kind = .input) = [input] := by
    rw [← hconcat, List.filter_append, List.filter_append, hinput,
      Section.filter_kind_eq_nil hprocessors,
      Section.filter_kind_eq_nil (i.simplify.closingSections_ne_input _ p)]
    rfl
  obtain ⟨hmem, hk⟩ := List.mem_filter.mp (hone ▸ List.mem_singleton_self input)
  exact ⟨⟨input, hone, (haddressed input hmem).input (by simpa using hk)⟩,
    fun s hs => (haddressed s hs).filter⟩

/-- Files whose lines are joined, an application's log, and a receiver whose clients extend the
tag. -/
def wiredLogs : Config where
  logging := some {
    receivers := .ofList [
      ("f", .files { includePaths := ["/a.log"] }),
      ("n", .app .nginxError {}),
      ("w", .forward none none)]
    processors := .ofList [
      ("java", .parseMultiline [⟨languageExceptions, "java"⟩]),
      ("json", .parseJson {})]
    pipelines := .ofList [
      ("p", { receivers := ["f", "n", "w"], processors := ["java", "json", "lib:nginx"] })] }

/-- The three instances of `wiredLogs` are wired. -/
theorem LogInstance.sections_wired_wiredLogs : wiredLogs.check = .ok () ∧
    ∃ is, wiredLogs.logInstances .fluentBit = .ok is ∧
      is.map (fun i => i.tag.dynamic) = [false, false, true] ∧
      ∀ i ∈ is, ∃ ss, i.simplify.sections samplePlatform = .ok ss ∧ Section.Wired i.tag ss := by
  have hc : wiredLogs.check = .ok () := rfl
  have hdynamic : (wiredLogs.logInstances .fluentBit).map (fun is =>
      is.map fun i => i.tag.dynamic) = .ok [false, false, true] := by
    rfl
  obtain ⟨is, his, hdynamic⟩ := map_eq_ok.mp hdynamic
  refine ⟨hc, is, his, hdynamic, ?_⟩
  intro i hi
  obtain ⟨receiver, parts, ss, hss, -, -, -, hwired⟩ :=
    LogInstance.sections_wired hc his hi samplePlatform
  exact ⟨ss, hss, hwired⟩

end Telemetry
