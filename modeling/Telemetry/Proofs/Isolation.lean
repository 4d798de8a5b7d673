import Telemetry.Proofs.InstanceTexts
import Telemetry.Proofs.Routing
import Telemetry.Proofs.SectionOrder
import Telemetry.Proofs.Wildcard

/-!
# Filters and the records of other instances

A filter finds its records by the routing pattern of its instance, in which a `*` is a wildcard
wherever it comes from. This file says when a filter finds records of another instance too.

* **`LogInstance.Overhears`** — the routing pattern of an instance and the tag of another one fit
  together; nothing has to be said about what clients add to the tag.
* **`overhears_iff`** — this is when some record of the one passes a filter of the other.
* **`overhears_iff_of_plain`** — without a `*` in the ids, the base tag of an instance without
  clients has to begin with the head of one with clients, its hash included.
* **`compile_isolated_iff`** — the filters of a compilation keep to their own records exactly if no
  instance overhears another. An id with a `*` makes one do so: **`compile_overheardLogs`**.
-/

namespace Telemetry

open Failing

namespace LogInstance

/-- The filters of an instance find records of another one. -/
def Overhears (i j : LogInstance) : Prop :=
  if j.tag.dynamic then
    j.tag.input.toList <+: Wildcard.fixedHead i.tag.routing.toList ∨
      ('*' ∈ i.tag.routing.toList ∧
        Wildcard.fixedHead i.tag.routing.toList <+: j.tag.input.toList)
  else Wildcard.Matches i.tag.routing j.tag.base

instance decidableOverhears (i j : LogInstance) : Decidable (i.Overhears j) :=
  inferInstanceAs (Decidable (ite _ _ _))

/-- **An instance overhears another** exactly if its routing pattern matches a tag of the other. -/
theorem overhears_iff (i j : LogInstance) :
    (∃ text, j.Takes text ∧ Wildcard.Matches i.tag.routing text) ↔ i.Overhears j := by
  rw [Overhears]
  split
  · rename_i hd
    rw [← Wildcard.exists_extension_iff]
    -- clients may continue the prefix as they like, so some continuation has to be matched
    constructor
    · rintro ⟨text, htakes, hmatches⟩
      rw [Takes, if_pos hd] at htakes
      obtain ⟨more, hmore⟩ := htakes
      exact ⟨more, hmore ▸ hmatches⟩
    · rintro ⟨more, hmatches⟩
      refine ⟨String.ofList (j.tag.input.toList ++ more), ?_, ?_⟩
      · rw [Takes, if_pos hd, String.toList_ofList]
        exact List.prefix_append _ _
      · rw [Wildcard.Matches, String.toList_ofList]
        exact hmatches
  · rename_i hd
    constructor
    · rintro ⟨text, htakes, hmatches⟩
      rw [Takes, if_neg hd] at htakes
      exact htakes ▸ hmatches
    · intro hmatches
      refine ⟨_, ?_, hmatches⟩
      rw [Takes, if_neg hd]

end LogInstance

/-! ## Heads of dynamic tags -/

namespace Tag

theorem dot_notMem_segment (id : String) : '.' ∉ (segment id).toList := by
  rw [segment, Text.mapChars, String.toList_ofList]
  intro hm
  obtain ⟨c, -, hc⟩ := List.mem_map.mp hm
  split at hc
  · exact absurd hc (by decide)
  · rename_i hne
    exact hne hc

theorem star_notMem_segment {id : String} (h : '*' ∉ id.toList) : '*' ∉ (segment id).toList := by
  rw [segment, Text.mapChars, String.toList_ofList]
  intro hm
  obtain ⟨c, hmem, hc⟩ := List.mem_map.mp hm
  split at hc
  · exact absurd hc (by decide)
  · exact h (hc ▸ hmem)

theorem notMem_contentHash {c : Char} (hc : c ∉ "0123456789abcdef".toList) (s : String) :
    c ∉ (contentHash s).toList :=
  fun hm => hc (mem_contentHash hm)

/-- The input of a dynamic tag is three parts without dots, each with a dot after it. -/
theorem toList_dynamicInput (pipeline receiver : String) :
    (forInstance pipeline receiver true).input.toList
      = (segment pipeline).toList ++ '.' :: ((segment receiver).toList
        ++ '.' :: ((contentHash (pipeline ++ "." ++ receiver)).toList ++ ['.'])) := by
  simp [forInstance, dynamicHead]

/-- **What stands behind a dynamic head tells its parts.** Equal tags have equal segments, hashes and
client parts. -/
theorem dynamicInput_append_inj {pipeline receiver pipeline' receiver' : String}
    {client client' : List Char}
    (h : (forInstance pipeline receiver true).input.toList ++ client
      = (forInstance pipeline' receiver' true).input.toList ++ client') :
    segment pipeline = segment pipeline' ∧ segment receiver = segment receiver' ∧
      contentHash (pipeline ++ "." ++ receiver) = contentHash (pipeline' ++ "." ++ receiver') ∧
      client = client' := by
  rw [toList_dynamicInput, toList_dynamicInput] at h
  simp only [List.append_assoc, List.cons_append, List.nil_append] at h
  have hdot : '.' ∉ "0123456789abcdef".toList := by decide
  -- neither segments nor the hash have dots, so that the parts are told apart one by one
  obtain ⟨hp, h⟩ := Text.append_cons_inj_of_first (dot_notMem_segment _) (dot_notMem_segment _) h
  obtain ⟨hr, h⟩ := Text.append_cons_inj_of_first (dot_notMem_segment _) (dot_notMem_segment _) h
  obtain ⟨hh, hc⟩ := Text.append_cons_inj_of_first (notMem_contentHash hdot _)
    (notMem_contentHash hdot _) h
  exact ⟨String.toList_injective hp, String.toList_injective hr, String.toList_injective hh, hc⟩

/-- **Heads of dynamic tags of which one begins with the other** have the same hash. -/
theorem contentHash_eq_of_prefix {pipeline receiver pipeline' receiver' : String}
    (h : (forInstance pipeline receiver true).input.toList
      <+: (forInstance pipeline' receiver' true).input.toList) :
    contentHash (pipeline ++ "." ++ receiver) = contentHash (pipeline' ++ "." ++ receiver') := by
  obtain ⟨client, h⟩ := h
  rw [← List.append_nil (forInstance pipeline' receiver' true).input.toList] at h
  exact (dynamicInput_append_inj h).2.2.1

end Tag

namespace LogInstance

/-- No `*` stands in the ids of an instance. -/
def PlainIds (i : LogInstance) : Prop :=
  '*' ∉ i.pipeline.toList ∧ '*' ∉ i.receiverId.toList

variable {i j : LogInstance}

theorem PlainIds.base (h : i.PlainIds) : '*' ∉ i.tag.base.toList := by
  rw [base_eq]
  simp [h.1, h.2]

theorem PlainIds.input (h : i.PlainIds) : '*' ∉ i.tag.input.toList := by
  have hstar : '*' ∉ "0123456789abcdef".toList := by decide
  rw [tag]
  cases i.receiver.hasDynamicTag with
  | false =>
      show '*' ∉ (i.pipeline ++ "." ++ i.receiverId).toList
      simp [h.1, h.2]
  | true =>
      rw [Tag.toList_dynamicInput]
      simp [Tag.star_notMem_segment h.1, Tag.star_notMem_segment h.2,
        Tag.notMem_contentHash hstar]

/-- The routing pattern is the base tag, or the input of a dynamic tag with a wildcard behind it. -/
theorem routing_eq (i : LogInstance) :
    i.tag.routing = if i.tag.dynamic then i.tag.input ++ "*" else i.tag.base := by
  rw [tag]
  cases i.receiver.hasDynamicTag with
  | false => rfl
  | true =>
      show Tag.dynamicHead i.pipeline i.receiverId ++ ".*"
        = Tag.dynamicHead i.pipeline i.receiverId ++ "." ++ "*"
      rw [String.append_assoc]
      rfl

theorem tag_of_dynamic (h : i.tag.dynamic = true) :
    i.tag = Tag.forInstance i.pipeline i.receiverId true := by
  rw [tag_dynamic] at h
  rw [tag, h]

/-- **Without a `*` in the ids,** an instance overhears another only if one of them has clients and
the other has none, and the base tag of the latter begins with the head of the former. The content
hash keeps two instances with clients apart, and the resolver two without. -/
theorem overhears_iff_of_plain {is : List LogInstance} (hb : (baseTags is).Nodup)
    (hash : HashSeparates (baseTags is)) (hi : i ∈ is) (hj : j ∈ is) (hne : i ≠ j)
    (hplain : i.PlainIds) :
    i.Overhears j ↔
      (i.tag.dynamic = false ∧ j.tag.dynamic = true ∧ j.tag.input.toList <+: i.tag.base.toList) ∨
      (i.tag.dynamic = true ∧ j.tag.dynamic = false ∧
        i.tag.input.toList <+: j.tag.base.toList) := by
  have hbase : i.tag.base ≠ j.tag.base := fun he => hne (List.inj_on_of_nodup_map hb hi hj he)
  have hbi := hplain.base
  have hii := hplain.input
  rw [Overhears, routing_eq i]
  cases hdi : i.tag.dynamic <;> cases hdj : j.tag.dynamic
  case false.false =>
    simp only [Bool.false_eq_true, if_false, false_and, and_false, or_false, iff_false]
    rw [Wildcard.matches_literal hbi]
    exact hbase.symm
  case false.true =>
    simp [Wildcard.fixedHead_of_notMem hbi, hbi]
  case true.false =>
    simp [Wildcard.matches_open hii]
  case true.true =>
    -- the head of one would begin with that of the other, and then the hashes are the same
    have hhead : Wildcard.fixedHead (i.tag.input ++ "*").toList = i.tag.input.toList := by
      rw [String.toList_append]
      exact Wildcard.fixedHead_append hii []
    have hi' := tag_of_dynamic hdi
    have hj' := tag_of_dynamic hdj
    have hapart : contentHash i.tag.base ≠ contentHash j.tag.base := fun he =>
      hbase (hash _ (List.mem_map_of_mem hi) _ (List.mem_map_of_mem hj) he)
    rw [base_eq, base_eq] at hapart
    simp only [if_true, hhead, Bool.true_eq_false, false_and, and_false, or_false, iff_false]
    rintro (hbegins | ⟨-, hbegins⟩)
    · rw [hi', hj'] at hbegins
      exact hapart (Tag.contentHash_eq_of_prefix hbegins).symm
    · rw [hi', hj'] at hbegins
      exact hapart (Tag.contentHash_eq_of_prefix hbegins)

end LogInstance

namespace LogEngine

variable {c : Config} {p : Platform} {o : CompileOptions}

namespace Parts

variable {is : List LogInstance} {own : List (List Section)} {ss : List Section}

/-- The sections of each instance are addressed by its tag. -/
theorem addressed (h : Parts c p o is own ss) :
    List.Forall₂ (fun i part => ∀ s ∈ part, s.Addressed i.tag) is own := by
  refine h.each.imp fun i part hpart => ?_
  -- what is written is the simplified instance, whose tag is the same
  rw [← i.simplify_tag]
  exact (LogInstance.writes hpart.1).addressed

end Parts

/-- **Filters keep to the records of their own instance** exactly if no instance overhears another.
The filters in the files of a compilation are those of its instances, which find their records by
the routing pattern of the instance, and its inputs put its tag on them. Where no `*` stands in the
ids and the content hash tells the base tags apart, an instance overhears another only if the base
tag of one that has no clients begins with the head of one that has. -/
theorem compile_isolated_iff {files : Files} (h : compile c p o = .ok files) :
    ∃ is own ss, c.logInstances .fluentBit = .ok is ∧ emittedSections c p o = .ok ss ∧
      Section.layout (mainVariables p.buffersDir p.logsDir) ss = .ok files ∧
      ss.filter (·.kind = .filter) = own.flatten.filter (·.kind = .filter) ∧
      List.Forall₂ (fun i part => ∀ s ∈ part, s.Addressed i.tag) is own ∧
      ((∀ i ∈ is, ∀ j ∈ is, i ≠ j → ∀ text, j.Takes text →
          ¬ Wildcard.Matches i.tag.routing text) ↔
        ¬ ∃ i ∈ is, ∃ j ∈ is, i ≠ j ∧ i.Overhears j) ∧
      (HashSeparates (baseTags is) → ∀ i ∈ is, ∀ j ∈ is, i ≠ j → i.PlainIds →
        (i.Overhears j ↔
          (i.tag.dynamic = false ∧ j.tag.dynamic = true ∧
            j.tag.input.toList <+: i.tag.base.toList) ∨
          (i.tag.dynamic = true ∧ j.tag.dynamic = false ∧
            i.tag.input.toList <+: j.tag.base.toList))) := by
  obtain ⟨is, own, ss, his, hparts, hemitted, hlayout, -, -⟩ := parts_of_compile h
  refine ⟨is, own, collected ss, his, hemitted, hlayout, hparts.filters_eq,
    hparts.addressed, ?_, ?_⟩
  · constructor
    · rintro hisolated ⟨i, hi, j, hj, hne, hover⟩
      obtain ⟨text, htakes, hmatches⟩ := (LogInstance.overhears_iff i j).mpr hover
      exact hisolated i hi j hj hne text htakes hmatches
    · intro hnone i hi j hj hne text htakes hmatches
      exact hnone ⟨i, hi, j, hj, hne, (LogInstance.overhears_iff i j).mp ⟨text, htakes, hmatches⟩⟩
  · intro hash i hi j hj hne hplain
    exact LogInstance.overhears_iff_of_plain (Config.logInstances_eq_ok his).1 hash hi hj hne hplain

/-- Two receivers for files and one whose clients extend the tag. -/
def separateLogs : Config where
  logging := some {
    receivers := .ofList [
      ("a", .files { includePaths := ["/a.log"] }),
      ("b", .files { includePaths := ["/b.log"] }),
      ("f", .forward none none)]
    pipelines := .ofList [("p", { receivers := ["a", "b", "f"] })] }

/-- No instance of `separateLogs` overhears another, so that the filters keep to their own records. -/
theorem compile_isolated_iff_separateLogs :
    ∃ files, compile separateLogs samplePlatform {} = .ok files ∧
      ∃ is ss, separateLogs.logInstances .fluentBit = .ok is ∧
        emittedSections separateLogs samplePlatform {} = .ok ss ∧
        is.map (·.tag.base) = ["p.a", "p.b", "p.f"] ∧
        (¬ ∃ i ∈ is, ∃ j ∈ is, i ≠ j ∧ i.Overhears j) ∧
        ∀ i ∈ is, ∀ j ∈ is, i ≠ j → ∀ text, j.Takes text →
          ¬ Wildcard.Matches i.tag.routing text := by
  obtain ⟨files, h⟩ : ∃ files, compile separateLogs samplePlatform {} = .ok files :=
    exists_of_isOk rfl
  obtain ⟨is, own, ss, his, hss, -, -, -, hiff, -⟩ := compile_isolated_iff h
  have hbases : (separateLogs.logInstances .fluentBit).map (fun is => is.map (·.tag.base))
      = .ok ["p.a", "p.b", "p.f"] := by
    rfl
  have hapart : (separateLogs.logInstances .fluentBit).map (fun is => decide
      (∀ i ∈ is, ∀ j ∈ is, i.tag.base ≠ j.tag.base → ¬ i.Overhears j)) = .ok true := by
    decide +kernel
  -- different instances have different base tags
  have hnone : ¬ ∃ i ∈ is, ∃ j ∈ is, i ≠ j ∧ i.Overhears j := by
    rintro ⟨i, hi, j, hj, hne, hover⟩
    refine of_map_decide his hapart i hi j hj (fun he => hne ?_) hover
    exact List.inj_on_of_nodup_map (Config.logInstances_eq_ok his).1 hi hj he
  exact ⟨files, h, is, ss, his, hss, eq_of_map_eq_ok his hbases, hnone, hiff.mpr hnone⟩

/-- A pipeline with the receivers `*` and `r`. The routing patterns are `p.*` and `p.r`. -/
def overheardLogs : Config where
  logging := some {
    receivers := .ofList [
      ("*", .files { includePaths := ["/a.log"] }),
      ("r", .files { includePaths := ["/b.log"] })]
    pipelines := .ofList [("p", { receivers := ["*", "r"] })] }

/-- **A filter can match the tag of another instance** in files for an accepted configuration. -/
theorem compile_overheardLogs : overheardLogs.check = .ok () ∧
    ∃ files is i j, compile overheardLogs samplePlatform {} = .ok files ∧
      overheardLogs.logInstances .fluentBit = .ok is ∧ i ∈ is ∧ j ∈ is ∧ i ≠ j ∧
      j.Takes "p.r" ∧ i.tag.routing = "p.*" ∧ Wildcard.Matches "p.*" "p.r" := by
  refine ⟨rfl, ?_⟩
  obtain ⟨files, h⟩ : ∃ files, compile overheardLogs samplePlatform {} = .ok files :=
    exists_of_isOk rfl
  have htags : (overheardLogs.logInstances .fluentBit).map (fun is => is.map (·.tag))
      = .ok [.ofText "p.*", .ofText "p.r"] := by
    rfl
  obtain ⟨is, -, -, his, -⟩ := parts_of_compile h
  obtain ⟨i, rest, rfl, hi, hrest⟩ := List.map_eq_cons_iff.mp (eq_of_map_eq_ok his htags)
  obtain ⟨j, rest, rfl, hj, -⟩ := List.map_eq_cons_iff.mp hrest
  refine ⟨files, _, i, j, h, his, List.mem_cons_self, List.mem_cons_of_mem _ List.mem_cons_self,
    ?_, ?_, ?_, by decide⟩
  · rintro rfl
    rw [hi] at hj
    exact absurd hj (by decide)
  · rw [LogInstance.Takes, hj]
    rfl
  · rw [hi]
    rfl

end LogEngine

end Telemetry
