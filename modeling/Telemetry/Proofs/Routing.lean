import Telemetry.Proofs.Regex
import Telemetry.Proofs.Run

/-!
# Outputs take the tags of their instances

An output says by a regular expression which tags it takes. The expression is made of one
alternative for each instance that sends to the exporter, and the ids in it may be full of special
characters.

* **`LogInstance.Takes`** — the tags under which the records of an instance come: its base tag, or
  where clients extend the tag, all texts that begin with its head.
* **`matches_alternation`** — the expression for some tags matches what one of them stands for.
* **`compile_routes`** — the outputs of a compilation: one for each exporter in use, in ascending
  order, and one for the agent's own logs; and each takes exactly the tags that it should.
-/

namespace Telemetry

open Failing

/-! ## What a tag stands for -/

/-- A text is a tag of the records of an instance. -/
def LogInstance.Takes (i : LogInstance) (text : String) : Prop :=
  if i.tag.dynamic then i.tag.input.toList <+: text.toList else text = i.tag.base

/-- The expression of a tag, as the items that it is read as. -/
def Tag.items (t : Tag) : List Regex :=
  if t.dynamic then t.input.toList.map .char ++ [.star .dot] else t.base.toList.map .char

/-- The expression of the tag of an instance is read as its items. -/
theorem readsAs_forInstance (pipeline receiver : String) (dynamic : Bool) :
    Regex.ReadsAs (Tag.forInstance pipeline receiver dynamic).matchRegex.toList
      (Tag.forInstance pipeline receiver dynamic).items := by
  cases dynamic with
  | false => exact Regex.readsAs_escape (pipeline ++ "." ++ receiver)
  | true =>
      have h := (Regex.readsAs_escape (Tag.dynamicHead pipeline receiver)).append
        Regex.readsAs_anySuffix
      have hitems : (Tag.forInstance pipeline receiver true).items
          = (Tag.dynamicHead pipeline receiver).toList.map .char ++ [.char '.', .star .dot] := by
        simp [Tag.items, Tag.forInstance]
      rw [hitems, ← String.toList_append] at *
      exact h

/-- The items of the tag of an instance span the tags of its records. -/
theorem spans_items_iff (i : LogInstance) {text : String} (hline : '\n' ∉ text.toList) :
    (Regex.catAll i.tag.items).Spans [] text.toList [] ↔ i.Takes text := by
  rw [LogInstance.Takes, LogInstance.tag]
  cases i.receiver.hasDynamicTag with
  | false =>
      show (Regex.catAll ((i.pipeline ++ "." ++ i.receiverId).toList.map .char)).Spans _ _ _ ↔
        text = i.pipeline ++ "." ++ i.receiverId
      rw [Regex.catAll_chars]
      exact String.toList_inj
  | true =>
      have hitems : (Tag.forInstance i.pipeline i.receiverId true).items
          = (Tag.dynamicHead i.pipeline i.receiverId).toList.map .char
            ++ [.char '.', .star .dot] := by
        simp [Tag.items, Tag.forInstance]
      have hinput : (Tag.forInstance i.pipeline i.receiverId true).input.toList
          = (Tag.dynamicHead i.pipeline i.receiverId).toList ++ ['.'] := by
        simp [Tag.forInstance]
      rw [hitems, Regex.catAll_anySuffix]
      show _ ↔ (Tag.forInstance i.pipeline i.receiverId true).input.toList <+: text.toList
      rw [hinput]
      constructor
      · rintro ⟨w, hw, -⟩
        exact ⟨w, by simp [hw]⟩
      · rintro ⟨w, hw⟩
        refine ⟨w, by simp [← hw], ?_⟩
        intro hn
        exact hline (hw ▸ List.mem_append_right _ hn)

/-- **The expression for some tags matches what one of them stands for.** -/
theorem matches_alternation {tags : List Tag} (hne : tags ≠ [])
    (hreads : ∀ t ∈ tags, Regex.ReadsAs t.matchRegex.toList t.items) (text : String) :
    Regex.Matches (Tag.alternation tags) text ↔
      ∃ t ∈ tags, (Regex.catAll t.items).Spans [] text.toList [] := by
  have hne' : tags.map (fun t => (t.matchRegex, t.items)) ≠ [] := by
    simpa using hne
  obtain ⟨r, hr, hfinds⟩ := Regex.parse_anchored_group hne' (List.forall_mem_map.mpr hreads)
  rw [List.map_map] at hr
  have hr' : Regex.parse? (Tag.alternation tags) = some r := hr
  rw [Regex.Matches]
  rw [hr']
  simp only [Option.some.injEq, exists_eq_left', hfinds]
  constructor
  · rintro ⟨x, hx, hspans⟩
    obtain ⟨t, ht, rfl⟩ := List.mem_map.mp hx
    exact ⟨t, ht, hspans⟩
  · rintro ⟨t, ht, hspans⟩
    exact ⟨_, List.mem_map.mpr ⟨t, ht, rfl⟩, hspans⟩

/-! ## Outputs -/

/-- The regular expression of an output. -/
theorem values_outputFor (p : Platform) (tags : List Tag) :
    (LogEngine.outputFor p tags).values "Match_Regex" = [Tag.alternation tags] := by
  simp [Section.values_eq, LogEngine.outputFor, stackdriverOutput, Section.ofFields]

/-- No instance takes the tag of the agent's own logs, which has no dot. -/
theorem not_takes_selfLogTag (i : LogInstance) : ¬ i.Takes selfLogTag.base := by
  have hno : '.' ∉ selfLogTag.base.toList := by
    decide
  intro h
  rw [LogInstance.Takes] at h
  split at h
  · rename_i hd
    have hinput : '.' ∈ i.tag.input.toList := by
      rw [LogInstance.tag] at hd ⊢
      cases hdyn : i.receiver.hasDynamicTag with
      | false =>
          rw [hdyn] at hd
          exact absurd hd Bool.false_ne_true
      | true => simp [Tag.forInstance]
    exact hno (h.subset hinput)
  · rw [h, LogInstance.base_eq] at hno
    exact hno (by simp)

namespace LogEngine

/-- The ids of exporters are those that an instance lists, in ascending order. -/
theorem exporterIds_spec (is : List LogInstance) :
    (exporterIds is).Pairwise (· < ·) ∧
      ∀ e, e ∈ exporterIds is ↔ ∃ i ∈ is, e ∈ i.exporters := by
  refine ⟨Keyed.keys_ascending _, ?_⟩
  intro e
  rw [exporterIds]
  rw [Keyed.mem_keys_ofList]
  simp

theorem exporterIds_simplify (is : List LogInstance) :
    exporterIds (is.map (·.simplify)) = exporterIds is := by
  simp [exporterIds, List.flatMap_map]

/-- A tag is among those of an exporter if an instance with it lists the exporter. -/
theorem mem_tagsFor {is : List LogInstance} {e : String} {t : Tag} :
    t ∈ tagsFor is e ↔ ∃ i ∈ is, e ∈ i.exporters ∧ t = i.tag := by
  rw [tagsFor]
  constructor
  · intro h
    obtain ⟨i, hi, h⟩ := List.mem_flatMap.mp h
    obtain ⟨e', he', rfl⟩ := List.mem_map.mp h
    obtain ⟨hmem, he⟩ := List.mem_filter.mp he'
    obtain rfl : e' = e := by simpa using he
    exact ⟨i, hi, hmem, rfl⟩
  · rintro ⟨i, hi, he, rfl⟩
    refine List.mem_flatMap.mpr ⟨i, hi, List.mem_map.mpr ⟨e, ?_, rfl⟩⟩
    exact List.mem_filter.mpr ⟨he, by simp⟩

/-- Simplifying changes no tag. -/
theorem tagsFor_simplify (is : List LogInstance) (e : String) :
    tagsFor (is.map (·.simplify)) e = tagsFor is e := by
  simp [tagsFor, List.flatMap_map]

/-- **The output for an exporter takes the tags of the instances that list it.** -/
theorem matches_tagsFor {is : List LogInstance} {e : String} (he : ∃ i ∈ is, e ∈ i.exporters)
    {text : String} (hline : '\n' ∉ text.toList) :
    Regex.Matches (Tag.alternation (tagsFor is e)) text ↔
      ∃ i ∈ is, e ∈ i.exporters ∧ i.Takes text := by
  have hne : tagsFor is e ≠ [] := by
    obtain ⟨i, hi, hei⟩ := he
    exact List.ne_nil_of_mem (mem_tagsFor.mpr ⟨i, hi, hei, rfl⟩)
  have hreads : ∀ t ∈ tagsFor is e, Regex.ReadsAs t.matchRegex.toList t.items := by
    intro t ht
    obtain ⟨i, -, -, rfl⟩ := mem_tagsFor.mp ht
    exact readsAs_forInstance _ _ _
  rw [matches_alternation hne hreads]
  constructor
  · rintro ⟨t, ht, hspans⟩
    obtain ⟨i, hi, hei, rfl⟩ := mem_tagsFor.mp ht
    exact ⟨i, hi, hei, (spans_items_iff i hline).mp hspans⟩
  · rintro ⟨i, hi, hei, htakes⟩
    exact ⟨i.tag, mem_tagsFor.mpr ⟨i, hi, hei, rfl⟩, (spans_items_iff i hline).mpr htakes⟩

/-- The output for the agent's own logs takes their tag only. -/
theorem matches_selfLogTag (text : String) :
    Regex.Matches (Tag.alternation [selfLogTag]) text ↔ text = selfLogTag.base := by
  have hreads : ∀ t ∈ [selfLogTag], Regex.ReadsAs t.matchRegex.toList t.items :=
    List.forall_mem_singleton.mpr (Regex.readsAs_escape _)
  rw [matches_alternation (by simp) hreads]
  constructor
  · rintro ⟨t, ht, hspans⟩
    rw [List.mem_singleton.mp ht] at hspans
    exact String.toList_inj.mp ((Regex.catAll_chars _ _ _ _).mp hspans)
  · rintro rfl
    exact ⟨selfLogTag, List.mem_singleton_self _, (Regex.catAll_chars _ _ _ _).mpr rfl⟩

variable {c : Config} {p : Platform} {o : CompileOptions}

/-- The outputs among the sections that are written. -/
theorem outputs_of_parts {is : List LogInstance} {own : List (List Section)} {ss : List Section}
    (h : Parts c p o is own ss) :
    (collected ss).filter (·.kind = .output)
      = outputs p (is.map (·.simplify)) ++ if o.selfLogs then [outputFor p [selfLogTag]] else [] := by
  rw [filter_collected ss fun s hs => by simp [hs], h.all, List.filter_append, List.filter_append]
  have hservice : (serviceSection (c.engineLogLevel o.defaultLogLevel)).kind ≠ .output := by
    simp [serviceSection]
  -- no component brings an output
  have hown : own.flatten.filter (·.kind = .output) = [] := by
    refine List.filter_eq_nil_iff.mpr ?_
    intro s hs
    rcases (h.carries.regular s hs).kind with hk | hk | hk | hk | hk <;> simp [hk]
  have houtputs : (outputs p (is.map (·.simplify))).filter (·.kind = .output)
      = outputs p (is.map (·.simplify)) := by
    refine List.filter_eq_self.mpr ?_
    intro s hs
    obtain ⟨e, -, rfl⟩ := List.mem_map.mp hs
    rfl
  have hself : (if o.selfLogs then selfLogSections p else []).filter (·.kind = .output)
      = if o.selfLogs then [outputFor p [selfLogTag]] else [] := by
    split
    · rfl
    · rfl
  rw [List.filter_cons_of_neg (by simpa using hservice), hown, houtputs, hself, List.nil_append]

/-- **Outputs take exactly the tags that they should.** The outputs in the files of a compilation are
one for each exporter that an instance lists, in ascending order of the exporters, and one for the
agent's own logs if these are asked for. The first ones take the tags of the instances that list the
exporter, and the last one takes the tag of the agent's own logs, which no other takes. -/
theorem compile_routes {files : Files} (h : compile c p o = .ok files) :
    ∃ is ss, c.logInstances .fluentBit = .ok is ∧ emittedSections c p o = .ok ss ∧
      Section.layout (mainVariables p.buffersDir p.logsDir) ss = .ok files ∧
      ∃ exporters users, exporters.Pairwise (· < ·) ∧
        (∀ e, e ∈ exporters ↔ ∃ i ∈ is, e ∈ i.exporters) ∧
        List.Forall₂ (fun e s => ∃ pattern, s.values "Match_Regex" = [pattern] ∧
          (∀ text : String, '\n' ∉ text.toList →
            (Regex.Matches pattern text ↔ ∃ i ∈ is, e ∈ i.exporters ∧ i.Takes text)) ∧
          ¬ Regex.Matches pattern selfLogTag.base) exporters users ∧
        ∃ pattern own, own.values "Match_Regex" = [pattern] ∧
          (∀ text, Regex.Matches pattern text ↔ text = selfLogTag.base) ∧
          ss.filter (·.kind = .output) = users ++ if o.selfLogs then [own] else [] := by
  obtain ⟨is, own, ss, his, hparts, hemitted, hlayout, -, -⟩ := parts_of_compile h
  obtain ⟨hascending, hmem⟩ := exporterIds_spec is
  refine ⟨is, collected ss, his, hemitted, hlayout, exporterIds is,
    outputs p (is.map (·.simplify)), hascending, hmem, ?_, ?_⟩
  · rw [outputs]
    rw [exporterIds_simplify, List.forall₂_map_right_iff]
    refine List.forall₂_same.mpr ?_
    intro e he
    rw [tagsFor_simplify]
    have hused := (hmem e).mp he
    refine ⟨_, values_outputFor p _, fun text hline => matches_tagsFor hused hline, ?_⟩
    rw [matches_tagsFor hused (by decide)]
    rintro ⟨i, -, -, htakes⟩
    exact not_takes_selfLogTag i htakes
  · exact ⟨_, outputFor p [selfLogTag], values_outputFor p _, matches_selfLogTag,
      outputs_of_parts hparts⟩

/-- Ids with special characters, a receiver whose clients extend the tag, and two exporters in use. -/
def routedLogs : Config where
  logging := some {
    receivers := .ofList [
      ("a+b.(c|d)*", .files { includePaths := ["/a.log"] }),
      ("f", .forward none none)]
    exporters := .ofList [("x", .googleCloudLogging)]
    pipelines := .ofList [
      ("p^", { receivers := ["a+b.(c|d)*", "f"], exporters := ["x"] }),
      ("q", { receivers := ["a+b.(c|d)*"] })] }

/-- The outputs for `routedLogs`. -/
theorem compile_routes_routedLogs :
    ∃ files, compile routedLogs samplePlatform { selfLogs := true } = .ok files ∧
      ∃ (is : List LogInstance) (ss : List Section) (exporters : List String)
        (users : List Section), routedLogs.logInstances .fluentBit = .ok is ∧
        emittedSections routedLogs samplePlatform { selfLogs := true } = .ok ss ∧
        (∀ e, e ∈ exporters ↔ ∃ i ∈ is, e ∈ i.exporters) ∧
        List.Forall₂ (fun e s => ∃ pattern, s.values "Match_Regex" = [pattern] ∧
          ∀ text : String, '\n' ∉ text.toList →
            (Regex.Matches pattern text ↔ ∃ i ∈ is, e ∈ i.exporters ∧ i.Takes text))
          exporters users := by
  obtain ⟨files, h⟩ : ∃ files, compile routedLogs samplePlatform { selfLogs := true } = .ok files :=
    exists_of_isOk rfl
  obtain ⟨is, ss, his, hss, -, exporters, users, -, hmem, hroutes, -⟩ := compile_routes h
  refine ⟨files, h, is, ss, exporters, users, his, hss, hmem, hroutes.imp ?_⟩
  rintro e s ⟨pattern, hpattern, hmatches, -⟩
  exact ⟨pattern, hpattern, hmatches⟩

end LogEngine

end Telemetry
