import Telemetry.Proofs.Binding
import Telemetry.Proofs.Calls
import Telemetry.Proofs.Routing

/-!
# Requests of access logs

The access logs of known applications have the parts of a request in fields of their own. A filter
nests these fields under a key, and the output looks for the request under a key that it names.

* **`LogInstance.gathers_iff`** — simplified, an instance gathers a request exactly if its receiver
  or one of its processors reads an access log.
* **`LogEngine.exists_receiving`** — each instance has an output that takes its records.
* **`LogEngine.compile_requests_iff`** — the two keys differ, so that a request reaches an output of
  a compilation only where no access log is read.
-/

namespace Telemetry

open Failing

/-! ## Who gathers a request -/

/-- The logs of requests. -/
def AppLog.isAccess : AppLog → Bool
  | nginxAccess => true
  | apacheAccess => true
  | _ => false

/-- An instance has a receiver or a processor for an access log. -/
def LogInstance.ReadsAccessLog (i : LogInstance) : Prop :=
  ∃ app : AppLog, app.isAccess ∧ ((∃ s, i.receiver = .configured (.app app s)) ∨
    ∃ b ∈ i.processors, b.processor = .configured (.app app))

/-- Of the processors for an application's log, one gathers a request if it is an access log. -/
theorem LogProcessor.forApp_gathers (app : AppLog) :
    (∃ p ∈ LogProcessor.forApp app, p.gathers) ↔ app.isAccess := by
  cases app <;> simp [forApp, ofApp, gathers, AppLog.isAccess]

/-- What a receiver takes over gathers no request. -/
theorem LogReceiver.mem_absorbAll {r : LogReceiver} {bs : List Binding} {b : Binding} (hb : b ∈ bs)
    (hg : b.processor.gathers) : b ∈ (r.absorbAll bs).2 := by
  induction bs generalizing r with
  | nil => cases hb
  | cons b' bs ih =>
      rw [LogReceiver.absorbAll]
      cases ha : r.absorb? b'.processor with
      | none => exact hb
      | some r' =>
          obtain ⟨s, gs, -, hp, -⟩ := LogReceiver.absorb?_eq_some.mp ha
          rcases List.mem_cons.mp hb with rfl | hb
          · rw [hp] at hg
            cases hg
          · exact ih hb

namespace LogInstance

/-- No processor that a pipeline can list gathers a request by itself. -/
theorem ResolvedIn.not_gathers {l : Logging} {engine : LogEngine} {i : LogInstance}
    (h : i.ResolvedIn l engine) : ∀ b ∈ i.processors, b.processor.gathers = false := by
  obtain ⟨p, -, -, -, hbound, -⟩ := h.pipeline
  intro b hb
  obtain ⟨id, -, hbind⟩ := exists_of_mem_forall₂ hbound hb
  obtain ⟨-, ⟨-, hid⟩ | ⟨config, -, hconfig⟩⟩ := Logging.bindProcessor_eq_ok hbind
  · rw [hid]
    rfl
  · rw [hconfig]
    rfl

/-- The processors that come with the receiver gather a request if it is for an access log. -/
theorem receiver_gathers_iff (r : LogReceiver) :
    (∃ p ∈ (r.expand?.getD (r, [])).2, p.gathers) ↔
      ∃ app s, r = .configured (.app app s) ∧ app.isAccess := by
  match r with
  | .configured (.app app s) =>
      show (∃ p ∈ LogProcessor.forApp app, p.gathers) ↔ _
      rw [LogProcessor.forApp_gathers]
      simp
  | .configured (.files _) => simp [LogReceiver.expand?]
  | .configured (.syslog _ _ _) => simp [LogReceiver.expand?]
  | .configured (.tcp _ _ _) => simp [LogReceiver.expand?]
  | .configured (.forward _ _) => simp [LogReceiver.expand?]
  | .configured (.eventLog _) => simp [LogReceiver.expand?]
  | .tail _ _ => simp [LogReceiver.expand?]

/-- A processor that gathers no request by itself expands into one that does if it is for an access
log. -/
theorem binding_gathers_iff {b : Binding} (h : b.processor.gathers = false) :
    (∃ b' ∈ b.expand, b'.processor.gathers) ↔
      ∃ app, b.processor = .configured (.app app) ∧ app.isAccess := by
  rw [Binding.expand]
  cases he : b.processor.expand? with
  | none =>
      refine iff_of_false ?_ ?_
      · rintro ⟨b', hb', hg⟩
        rw [List.mem_singleton.mp hb', h] at hg
        cases hg
      · rintro ⟨app, hp, -⟩
        rw [hp] at he
        cases he
  | some ps =>
      unfold LogProcessor.expand? at he
      split at he
      · rename_i app hp
        obtain rfl := Option.some.inj he
        rw [hp]
        have hone : (∃ b' ∈ (LogProcessor.forApp app).map fun p => (⟨b.id, p⟩ : Binding),
            b'.processor.gathers) ↔ ∃ p ∈ LogProcessor.forApp app, p.gathers := by
          simp
        show (∃ b' ∈ (LogProcessor.forApp app).map fun p => (⟨b.id, p⟩ : Binding),
            b'.processor.gathers) ↔ _
        rw [hone, LogProcessor.forApp_gathers]
        simp
      · cases he

/-- **Who gathers a request:** after simplifying, an instance has a nest exactly if its receiver or
one of its processors is for an access log. -/
theorem gathers_iff {l : Logging} {engine : LogEngine} {i : LogInstance}
    (h : i.ResolvedIn l engine) : i.simplify.nests ≠ [] ↔ i.ReadsAccessLog := by
  have hnests : i.simplify.nests ≠ [] ↔ ∃ b ∈ i.simplify.processors, b.processor.gathers := by
    rw [nests, ne_eq, List.flatMap_eq_nil_iff]
    simp
  -- what a receiver absorbs does not gather, so that simplifying takes no nest away
  have hsimplify : (∃ b ∈ i.simplify.processors, b.processor.gathers) ↔
      ∃ b ∈ i.expand.processors, b.processor.gathers := by
    rw [simplify_processors]
    constructor
    · rintro ⟨b, hb, hg⟩
      exact ⟨b, (LogReceiver.absorbAll_suffix _ _).mem hb, hg⟩
    · rintro ⟨b, hb, hg⟩
      exact ⟨b, LogReceiver.mem_absorbAll hb hg, hg⟩
  have hexpand : (∃ b ∈ i.expand.processors, b.processor.gathers) ↔
      (∃ p ∈ (i.receiver.expand?.getD (i.receiver, [])).2, p.gathers) ∨
        ∃ b ∈ i.processors, ∃ b' ∈ b.expand, b'.processor.gathers := by
    constructor
    · rintro ⟨b, hb, hg⟩
      rcases List.mem_append.mp hb with hb | hb
      · obtain ⟨p, hp, rfl⟩ := List.mem_map.mp hb
        exact .inl ⟨p, hp, hg⟩
      · obtain ⟨b', hb', hb⟩ := List.mem_flatMap.mp hb
        exact .inr ⟨b', hb', b, hb, hg⟩
    · rintro (⟨p, hp, hg⟩ | ⟨b', hb', b, hb, hg⟩)
      · exact ⟨⟨i.receiverId, p⟩, List.mem_append_left _ (List.mem_map.mpr ⟨p, hp, rfl⟩), hg⟩
      · exact ⟨b, List.mem_append_right _ (List.mem_flatMap.mpr ⟨b', hb', hb⟩), hg⟩
  rw [hnests, hsimplify, hexpand, receiver_gathers_iff]
  constructor
  · rintro (⟨app, s, hr, happ⟩ | ⟨b, hb, hg⟩)
    · exact ⟨app, happ, .inl ⟨s, hr⟩⟩
    · obtain ⟨app, hp, happ⟩ := (binding_gathers_iff (h.not_gathers b hb)).mp hg
      exact ⟨app, happ, .inr ⟨b, hb, hp⟩⟩
  · rintro ⟨app, happ, ⟨s, hr⟩ | ⟨b, hb, hp⟩⟩
    · exact .inl ⟨app, s, hr, happ⟩
    · exact .inr ⟨b, hb, (binding_gathers_iff (h.not_gathers b hb)).mpr ⟨app, hp, happ⟩⟩

/-- Each nest of an instance gathers the fields of a request, and under the same key. -/
theorem eq_of_mem_nests {i : LogInstance} {s : Section} (h : s ∈ i.nests) :
    s = requestNest i.tag.routing := by
  obtain ⟨b, -, hs⟩ := List.mem_flatMap.mp h
  split at hs
  · exact List.mem_singleton.mp hs
  · exact nomatch hs

end LogInstance

/-! ## Who takes the records of an instance -/

/-- An output takes some tag of the records of an instance. -/
def Section.Receives (out : Section) (i : LogInstance) : Prop :=
  ∃ pattern ∈ out.values "Match_Regex", ∃ text, i.Takes text ∧ Regex.Matches pattern text

namespace LogInstance

/-- The tag that the input puts on records is one of the records. -/
theorem takes_input (i : LogInstance) : i.Takes i.tag.input := by
  rw [Takes, tag]
  cases i.receiver.hasDynamicTag with
  | false => rfl
  | true => exact List.prefix_rfl

/-- The expression of the tag matches what the input puts on records. -/
theorem spans_input (i : LogInstance) :
    (Regex.catAll i.tag.items).Spans [] i.tag.input.toList [] := by
  rw [tag]
  cases i.receiver.hasDynamicTag with
  | false => exact (Regex.catAll_chars _ _ _ _).mpr rfl
  | true =>
      have hitems : (Tag.forInstance i.pipeline i.receiverId true).items
          = (Tag.dynamicHead i.pipeline i.receiverId).toList.map .char
            ++ [.char '.', .star .dot] := by
        simp [Tag.items, Tag.forInstance]
      rw [hitems, Regex.catAll_anySuffix]
      exact ⟨[], by simp [Tag.forInstance], List.not_mem_nil⟩

/-- An instance of an accepted configuration sends to some exporter. -/
theorem ResolvedIn.exists_exporter {l : Logging} {engine : LogEngine} {i : LogInstance}
    (h : i.ResolvedIn l engine) : ∃ e, e ∈ i.exporters := by
  obtain ⟨p, -, -, -, -, hexporters⟩ := h.pipeline
  rw [Logging.exporterIds_eq_ok hexporters]
  split
  · exact ⟨_, List.mem_singleton_self _⟩
  · rename_i hne
    exact List.exists_mem_of_ne_nil _ hne

end LogInstance

namespace LogEngine

variable {c : Config} {p : Platform} {o : CompileOptions}

/-- **Each instance has an output that takes its records.** -/
theorem exists_receiving {is : List LogInstance} {own : List (List Section)} {ss : List Section}
    (h : Parts c p o is own ss) (his : c.logInstances .fluentBit = .ok is) {i : LogInstance}
    (hi : i ∈ is) : ∃ out ∈ collected ss, out.kind = .output ∧ out.Receives i := by
  obtain ⟨l, -, hbound⟩ := (Config.logInstances_eq_ok his).2 i hi
  obtain ⟨e, he⟩ := hbound.exists_exporter
  -- the output for an exporter takes all tags that are sent to it
  have hout : outputFor p (tagsFor is e) ∈ (collected ss).filter (·.kind = .output) := by
    rw [outputs_of_parts h, outputs, exporterIds_simplify]
    refine List.mem_append_left _ (List.mem_map.mpr ⟨e, ?_, by rw [tagsFor_simplify]⟩)
    exact ((exporterIds_spec is).2 e).mpr ⟨i, hi, he⟩
  obtain ⟨hmem, hk⟩ := List.mem_filter.mp hout
  refine ⟨_, hmem, by simpa using hk, ?_⟩
  have htag : i.tag ∈ tagsFor is e := mem_tagsFor.mpr ⟨i, hi, he, rfl⟩
  have hreads : ∀ t ∈ tagsFor is e, Regex.ReadsAs t.matchRegex.toList t.items := by
    intro t ht
    obtain ⟨j, -, -, rfl⟩ := mem_tagsFor.mp ht
    exact readsAs_forInstance _ _ _
  refine ⟨_, by rw [values_outputFor]; exact List.mem_singleton_self _, i.tag.input, i.takes_input,
    ?_⟩
  exact (matches_alternation (List.ne_nil_of_mem htag) hreads _).mpr ⟨i.tag, htag, i.spans_input⟩

/-- All outputs look for the request under one key. -/
theorem values_httpRequestKey {is : List LogInstance} {own : List (List Section)}
    {ss : List Section} (h : Parts c p o is own ss) {out : Section} (hout : out ∈ collected ss)
    (hk : out.kind = .output) : out.values "http_request_key" = [httpRequestKey] := by
  have hkey : ∀ tags, (outputFor p tags).values "http_request_key" = [httpRequestKey] := by
    intro tags
    simp [Section.values_eq, outputFor, stackdriverOutput, Section.ofFields]
  have hmem : out ∈ (collected ss).filter (·.kind = .output) :=
    List.mem_filter.mpr ⟨hout, by simpa using hk⟩
  rw [outputs_of_parts h] at hmem
  rcases List.mem_append.mp hmem with hmem | hmem
  · obtain ⟨e, -, rfl⟩ := List.mem_map.mp hmem
    exact hkey _
  · split at hmem
    · rw [List.mem_singleton.mp hmem]
      exact hkey _
    · cases hmem

end LogEngine

/-! ## Whether a request arrives -/

/-- The outputs that take the records of an instance look for a request where the instance gathers
it. -/
def LogInstance.Delivers (i : LogInstance) (own ss : List Section) : Prop :=
  ∀ nest ∈ own, nest.isNest → ∀ out ∈ ss, out.kind = .output → out.Receives i →
    nest.values "Nest_under" = out.values "http_request_key"

theorem values_requestNest (routing : String) :
    (requestNest routing).values "Wildcard" = ["http_request_*"] ∧
      (requestNest routing).values "Nest_under" = ["logging.googleapis.com/http_request"] := by
  constructor <;>
    simp [Section.values_eq, requestNest, Filter.nestFields, Filter.named, Section.ofFields]

namespace LogEngine

variable {c : Config} {p : Platform} {o : CompileOptions}

/-- The nests among the sections of an instance gather a request; there are some exactly if it reads
an access log. -/
theorem nests_of_part {is : List LogInstance} (his : c.logInstances .fluentBit = .ok is)
    {i : LogInstance} (hi : i ∈ is) {own : List Section} (hown : i.simplify.sections p = .ok own) :
    ((∃ nest ∈ own, nest.isNest) ↔ i.ReadsAccessLog) ∧
      ∀ nest ∈ own, nest.isNest → nest = requestNest i.tag.routing := by
  obtain ⟨l, -, hbound⟩ := (Config.logInstances_eq_ok his).2 i hi
  have hnests := (LogInstance.sections_call hown).nests
  refine ⟨?_, ?_⟩
  · rw [← LogInstance.gathers_iff hbound, ← hnests, ne_eq, List.filter_eq_nil_iff]
    simp
  · intro nest hnest hisNest
    have hmem : nest ∈ i.simplify.nests := hnests ▸ List.mem_filter.mpr ⟨hnest, hisNest⟩
    rw [LogInstance.eq_of_mem_nests hmem, LogInstance.simplify_tag]

/-- A request reaches the outputs of a run only where no access log is read. -/
theorem delivers_iff {is : List LogInstance} {parts : List (List Section)} {ss : List Section}
    (h : Parts c p o is parts ss) (his : c.logInstances .fluentBit = .ok is) {i : LogInstance}
    (hi : i ∈ is) {own : List Section} (hown : i.simplify.sections p = .ok own) :
    i.Delivers own (collected ss) ↔ ¬ i.ReadsAccessLog := by
  obtain ⟨hsome, hnest⟩ := nests_of_part his hi hown
  constructor
  · intro hdelivers hreads
    obtain ⟨nest, hmem, hisNest⟩ := hsome.mpr hreads
    obtain ⟨out, hout, hk, hreceives⟩ := exists_receiving h his hi
    -- the two keys are not the same
    have hsame := hdelivers nest hmem hisNest out hout hk hreceives
    rw [hnest nest hmem hisNest, (values_requestNest _).2, values_httpRequestKey h hout hk] at hsame
    exact absurd hsame (by decide)
  · intro hnot nest hmem hisNest
    exact absurd (hsome.mp ⟨nest, hmem, hisNest⟩) hnot

/-- **Where a request arrives.** Each instance of a compilation has an output that takes its
records. It has a filter that nests the fields of a request exactly if it reads an access log, and
under a key for which no output looks. So an instance delivers its requests only if it has none. -/
theorem compile_requests_iff {files : Files} (h : compile c p o = .ok files) :
    ∃ is ss, c.logInstances .fluentBit = .ok is ∧ emittedSections c p o = .ok ss ∧
      Section.layout (mainVariables p.buffersDir p.logsDir) ss = .ok files ∧
      (∀ i ∈ is, ∃ own, i.simplify.sections p = .ok own ∧ own ⊆ ss ∧
        (∃ out ∈ ss, out.kind = .output ∧ out.Receives i) ∧
        ((∃ nest ∈ own, nest.isNest) ↔ i.ReadsAccessLog) ∧
        (∀ nest ∈ own, nest.isNest → nest.values "Wildcard" = ["http_request_*"] ∧
          nest.values "Nest_under" = ["logging.googleapis.com/http_request"]) ∧
        (i.Delivers own ss ↔ ¬ i.ReadsAccessLog)) ∧
      ∀ out ∈ ss, out.kind = .output →
        out.values "http_request_key" = ["logging.googleapis.com/httpRequest"] := by
  obtain ⟨is, parts, ss, his, hparts, hemitted, hlayout, -, -⟩ := parts_of_compile h
  refine ⟨is, collected ss, his, hemitted, hlayout, ?_, fun out hout hk =>
    values_httpRequestKey hparts hout hk⟩
  intro i hi
  obtain ⟨own, hmem, hown, -⟩ := exists_of_mem_forall₂ hparts.each.flip hi
  obtain ⟨hsome, hnest⟩ := nests_of_part his hi hown
  refine ⟨own, hown, hparts.part_subset own hmem, exists_receiving hparts his hi, hsome, ?_,
    delivers_iff hparts his hi hown⟩
  intro nest hmem hisNest
  rw [hnest nest hmem hisNest]
  exact values_requestNest _

/-- An access log, and files of which some hold one, beside files without. -/
def requestLogs : Config where
  logging := some {
    receivers := .ofList [
      ("web", .app .nginxAccess {}),
      ("f", .files { includePaths := ["/a.log"] })]
    processors := .ofList [("apache", .app .apacheAccess)]
    pipelines := .ofList [
      ("p", { receivers := ["web", "f"] }),
      ("q", { receivers := ["f"], processors := ["apache"] })] }

/-- The instances of `requestLogs`. -/
theorem compile_requests_iff_requestLogs :
    ∃ files, compile requestLogs samplePlatform {} = .ok files ∧
      ∃ is ss, requestLogs.logInstances .fluentBit = .ok is ∧
        emittedSections requestLogs samplePlatform {} = .ok ss ∧
        is.map (·.tag.base) = ["p.web", "p.f", "q.f"] ∧
        ∀ i ∈ is, ∃ own, i.simplify.sections samplePlatform = .ok own ∧
          (i.Delivers own ss ↔ ¬ i.ReadsAccessLog) := by
  obtain ⟨files, h⟩ : ∃ files, compile requestLogs samplePlatform {} = .ok files :=
    exists_files hashSeparates_sampleScripts (by decide +kernel) rfl
  obtain ⟨is, ss, his, hss, -, heach, -⟩ := compile_requests_iff h
  have hbases : (requestLogs.logInstances .fluentBit).map (fun is => is.map (·.tag.base))
      = .ok ["p.web", "p.f", "q.f"] := by
    rfl
  refine ⟨files, h, is, ss, his, hss, eq_of_map_eq_ok his hbases, ?_⟩
  intro i hi
  obtain ⟨own, hown, -, -, -, -, hdelivers⟩ := heach i hi
  exact ⟨own, hown, hdelivers⟩

/-- The access log of one server. -/
def serverLogs : Config where
  logging := some {
    receivers := .ofList [("web", .app .nginxAccess {})]
    pipelines := .ofList [("p", { receivers := ["web"] })] }

/-- **The requests of an access log are lost:** they are gathered under a key for which the output
does not look. -/
theorem compile_lostRequests : serverLogs.check = .ok () ∧
    ∃ files, compile serverLogs samplePlatform {} = .ok files ∧
      ∃ is ss, serverLogs.logInstances .fluentBit = .ok is ∧
        emittedSections serverLogs samplePlatform {} = .ok ss ∧
        ∃ i ∈ is, i.ReadsAccessLog ∧ ∃ own, i.simplify.sections samplePlatform = .ok own ∧
          ¬ i.Delivers own ss := by
  obtain ⟨files, h⟩ : ∃ files, compile serverLogs samplePlatform {} = .ok files :=
    exists_files hashSeparates_sampleScripts (by decide +kernel) rfl
  obtain ⟨is, parts, ss, his, hparts, hemitted, -, -, -⟩ := parts_of_compile h
  refine ⟨rfl, files, h, is, collected ss, his, hemitted, ?_⟩
  have hshape : is = [⟨"p", "web", .configured (.app .nginxAccess {}), [], [defaultLogExporter],
      .fluentBit⟩] := Except.ok.inj (his.symm.trans rfl)
  have hi : ⟨"p", "web", .configured (.app .nginxAccess {}), [], [defaultLogExporter],
      .fluentBit⟩ ∈ is := by
    rw [hshape]
    exact List.mem_singleton_self _
  have hreads : LogInstance.ReadsAccessLog ⟨"p", "web", .configured (.app .nginxAccess {}), [],
      [defaultLogExporter], .fluentBit⟩ :=
    ⟨.nginxAccess, rfl, .inl ⟨{}, rfl⟩⟩
  obtain ⟨own, -, hown, -⟩ := exists_of_mem_forall₂ hparts.each.flip hi
  exact ⟨_, hi, hreads, own, hown, fun hdelivers =>
    (delivers_iff hparts his hi hown).mp hdelivers hreads⟩

end LogEngine

end Telemetry
