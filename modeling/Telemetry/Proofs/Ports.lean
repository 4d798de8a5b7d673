import Telemetry.Proofs.SectionOrder
import Telemetry.Proofs.Wiring

/-!
# Listening ports

The receivers of an accepted configuration listen on different ports, because its check goes through
their definitions. Inputs are made for instances, though, and a receiver has an instance in each
pipeline that lists it; all of them listen on its port.

* **`Logging.Accepted.port_unique`** — one port belongs to one receiver.
* **`LogReceiver.portsIn_sections`** — the input of a receiver says the port on which it listens.
* **`Config.SharesListener`** — a receiver that listens is listed by two pipelines for one engine.
* **`compile_ports`** — the ports in the files of a compilation, in order, and that they are distinct
  exactly if no receiver that listens is shared.
-/

namespace Telemetry

open Failing

/-! ## Ports of definitions -/

/-- What gives the same value as another member is that member, if no value comes twice. -/
theorem eq_of_nodup_filterMap {α β : Type} {f : α → Option β} {as : List α}
    (h : (as.filterMap f).Nodup) {a b : α} (ha : a ∈ as) (hb : b ∈ as) {v : β} (hav : f a = some v)
    (hbv : f b = some v) : a = b := by
  rw [List.Nodup, List.pairwise_filterMap] at h
  have hsymm : Std.Symm fun a b => ∀ v, f a = some v → ∀ v', f b = some v' → v ≠ v' :=
    ⟨fun _ _ h v hv v' hv' => (h v' hv' v hv).symm⟩
  by_contra hne
  exact h.forall ha hb hne v hav v hbv rfl

/-- The ports pass if they are new and differ from each other. The induction is on the receivers that
are still to be looked at, with the owners growing. -/
theorem Logging.checkPorts_eq_ok {es : List (String × LogReceiverConfig)}
    {owners : List (UInt16 × String)} :
    Logging.checkPorts owners es = .ok () ↔
      (es.filterMap (·.2.listenPort?)).Nodup ∧
        ∀ port ∈ es.filterMap (·.2.listenPort?), owners.lookup port = none := by
  induction es generalizing owners with
  | nil => simp [Logging.checkPorts]
  | cons e es ih =>
      obtain ⟨id, receiver⟩ := e
      cases hport : receiver.listenPort? with
      | none =>
          have hstep : Logging.checkPorts owners ((id, receiver) :: es)
              = Logging.checkPorts owners es := by
            rw [Logging.checkPorts, hport]
          have hskip : ((id, receiver) :: es).filterMap (·.2.listenPort?)
              = es.filterMap (·.2.listenPort?) := List.filterMap_cons_none hport
          rw [hstep, hskip]
          exact ih
      | some port =>
          have hport' : ((id, receiver) :: es).filterMap (·.2.listenPort?)
              = port :: es.filterMap (·.2.listenPort?) := List.filterMap_cons_some hport
          rw [Logging.checkPorts, hport, hport', List.nodup_cons, List.forall_mem_cons]
          dsimp only
          cases howner : owners.lookup port with
          | some first =>
              constructor
              · intro h
                cases h
              · rintro ⟨-, h, -⟩
                cases h
          | none =>
              have hnew : ∀ port', ((port, id) :: owners).lookup port' = none ↔
                  port' ≠ port ∧ owners.lookup port' = none := by
                intro port'
                rw [List.lookup_eq_none_iff, List.forall_mem_cons, ← List.lookup_eq_none_iff,
                  bne_iff_ne]
              rw [ih]
              constructor
              · rintro ⟨hn, h⟩
                refine ⟨⟨?_, hn⟩, rfl, fun port' hm => ((hnew port').mp (h port' hm)).2⟩
                intro hm
                exact ((hnew port).mp (h port hm)).1 rfl
              · rintro ⟨⟨hport, hn⟩, -, h⟩
                refine ⟨hn, fun port' hm => (hnew port').mpr ⟨?_, h port' hm⟩⟩
                rintro rfl
                exact hport hm

/-- **One port belongs to one receiver** of an accepted domain. -/
theorem Logging.Accepted.port_unique {l : Logging} (hl : l.Accepted) {a b : String}
    {r s : LogReceiverConfig} (ha : l.receivers.get? a = some r) (hb : l.receivers.get? b = some s)
    {port : UInt16} (hr : r.listenPort? = some port) (hs : s.listenPort? = some port) : a = b := by
  have hdistinct := (Logging.checkPorts_eq_ok.mp hl.ports).1
  have hentries : (a, r) = (b, s) := eq_of_nodup_filterMap hdistinct (Keyed.mem_entries_iff.mpr ha)
    (Keyed.mem_entries_iff.mpr hb) hr hs
  exact congrArg Prod.fst hentries

/-! ## Ports of sections -/

/-- The port on which a receiver listens, as its input says it. -/
def LogReceiver.portText? (r : LogReceiver) : Option String :=
  r.listenPort?.map fun port => Text.decimal port.toNat

/-- The ports in the inputs among some sections, in order. -/
def portsIn (ss : List Section) : List String :=
  Section.valuesIn [.input] "Port" ss

/-- Sections that are no inputs say no port. -/
theorem portsIn_eq_nil {ss : List Section} (h : ∀ s ∈ ss, s.kind ≠ .input) : portsIn ss = [] := by
  refine Section.valuesIn_eq_nil ?_
  intro s hs
  simpa using h s hs

/-- The ports are those of the inputs. -/
theorem portsIn_eq_filter (ss : List Section) :
    portsIn ss = (ss.filter (·.kind = .input)).flatMap (·.values "Port") := by
  rw [portsIn, Section.valuesIn_eq_filter]
  simp

/-- The input for files says no port. -/
theorem Input.Tail.portsIn_section? (t : Input.Tail) (tag : Tag) :
    portsIn (t.section? tag).toList = [] := by
  cases hs : t.section? tag with
  | none => rfl
  | some s =>
      have hv : s.values "Port" = [] := by
        rw [Input.Tail.section?] at hs
        split at hs
        · cases hs
        · obtain rfl := Option.some.inj hs
          rw [Section.values_eq]
          split <;> split <;> simp [Input.buffered, Section.ofFields]
      simp [portsIn, Section.valuesIn_cons, hv]

/-- The sections for files say no port. -/
theorem FileSource.portsIn_sections (s : FileSource) (rules : List Filter.LineRule) (tag : Tag) :
    portsIn (s.sections rules tag) = [] := by
  rw [sections]
  split
  · exact Input.Tail.portsIn_section? _ _
  · have hfront : portsIn (Filter.lineParser ("multiline." ++ tag.base) rules
        :: Filter.modify tag.routing [.rename "log" "message"]
        :: Script.stripNewlineFilter tag.routing) = [] := by
      refine portsIn_eq_nil ?_
      simp [Script.stripNewlineFilter, Script.filter, Section.ofFile]
    exact (Section.valuesIn_append _ _).trans
      (by rw [← portsIn, ← portsIn, hfront, Input.Tail.portsIn_section?]; rfl)

/-- **The input of a receiver says the port on which it listens,** and nothing else does. -/
theorem LogReceiver.portsIn_sections {r : LogReceiver} {tag : Tag} {ss : List Section}
    (h : r.sections? tag = some ss) : portsIn ss = r.portText?.toList := by
  match r with
  | configured (.files s) =>
      obtain rfl := Option.some.inj h
      exact FileSource.portsIn_sections s [] tag
  | configured (.syslog transport host port) =>
      obtain rfl := Option.some.inj h
      simp [portsIn, Section.valuesIn_cons, Input.syslog, Input.buffered, Section.values_eq,
        Section.ofFields, portText?, listenPort?, LogReceiverConfig.listenPort?]
  | configured (.tcp host port format) =>
      obtain rfl := Option.some.inj h
      simp [portsIn, Section.valuesIn_cons, Input.tcp, Input.buffered, Section.values_eq,
        Section.ofFields, portText?, listenPort?, LogReceiverConfig.listenPort?]
  | configured (.forward host port) =>
      obtain rfl := Option.some.inj h
      simp [portsIn, Section.valuesIn_cons, Input.forward, Input.buffered, Section.values_eq,
        Section.ofFields, portText?, listenPort?, LogReceiverConfig.listenPort?]
  | configured (.eventLog channels) =>
      obtain rfl := Option.some.inj h
      rw [portsIn_eq_filter, filter_eventLogSections]
      simp [Input.eventLog, Section.values_eq, Section.ofFields, portText?, listenPort?,
        LogReceiverConfig.listenPort?]
  | configured (.app a s) => cases h
  | tail s rules =>
      obtain rfl := Option.some.inj h
      exact FileSource.portsIn_sections s rules tag

/-- Simplifying an instance of a configuration leaves the port: receivers that stand for others do
not listen, and neither does a tail. -/
theorem LogInstance.simplify_portText? {i : LogInstance} {config : LogReceiverConfig}
    (hr : i.receiver = .configured config) :
    i.simplify.receiver.portText? = i.receiver.portText? := by
  cases he : i.receiver.expand? with
  | none => rw [simplify_receiver_of_expand?_none hr he]
  | some e =>
      obtain ⟨s, own, rfl, -⟩ := LogReceiver.expand?_expanded he
      obtain ⟨rules, hs⟩ := simplify_receiver_of_expand? he
      rw [hs, hr]
      rw [hr] at he
      cases config <;> first | rfl | cases he

/-- **The port of an instance** is that of its receiver, because only that brings an input. -/
theorem LogInstance.portsIn_sections {i : LogInstance} {p : Platform} {ss : List Section}
    (h : i.sections p = .ok ss) : portsIn ss = i.receiver.portText?.toList := by
  obtain ⟨receiver, parts, hreceiver, hparts, rfl⟩ := sections_eq_ok.mp h
  -- neither processors nor what closes the instance bring inputs
  have hprocessors : ∀ s ∈ parts.flatten, s.kind ≠ .input := by
    intro s hs
    obtain ⟨part, hpart, hs⟩ := List.mem_flatten.mp hs
    obtain ⟨x, -, hx⟩ := exists_of_mem_forall₂ hparts hpart
    exact LogProcessor.kind_ne_input hx s hs
  rw [portsIn_eq_filter, List.filter_append, List.filter_append,
    Section.filter_kind_eq_nil hprocessors,
    Section.filter_kind_eq_nil (i.closingSections_ne_input _ p), List.append_nil, List.append_nil,
    ← portsIn_eq_filter]
  exact LogReceiver.portsIn_sections hreceiver

/-! ## Ports of a compilation -/

/-- A receiver that listens is listed by two pipelines for one engine. -/
def Config.SharesListener (c : Config) (engine : LogEngine) : Prop :=
  ∃ l, c.logging = some l ∧ ∃ id receiver port, l.receivers.get? id = some receiver ∧
    receiver.listenPort? = some port ∧
    ∃ a p b q, a ≠ b ∧ l.pipelines.get? a = some p ∧ p.engine = engine ∧ id ∈ p.receivers ∧
      l.pipelines.get? b = some q ∧ q.engine = engine ∧ id ∈ q.receivers

/-- Two instances have the same ports exactly if they listen, and with one receiver. -/
theorem Config.portText?_eq_iff {c : Config} (hc : c.check = .ok ()) {engine : LogEngine}
    {i j : LogInstance} (hi : ∃ l, c.logging = some l ∧ i.ResolvedIn l engine)
    (hj : ∃ l, c.logging = some l ∧ j.ResolvedIn l engine) :
    (∃ text, i.receiver.portText? = some text ∧ j.receiver.portText? = some text) ↔
      i.receiverId = j.receiverId ∧ i.receiver.listenPort?.isSome := by
  obtain ⟨l, hl, hi⟩ := hi
  obtain ⟨l', hl', hj⟩ := hj
  obtain rfl : l = l' := Option.some.inj (hl.symm.trans hl')
  obtain ⟨r, hr, hir⟩ := hi.receiver
  obtain ⟨s, hs, hjs⟩ := hj.receiver
  rw [hir, hjs]
  constructor
  · rintro ⟨text, hrt, hst⟩
    obtain ⟨port, hrp, rfl⟩ := Option.map_eq_some_iff.mp hrt
    obtain ⟨port', hsp, htext⟩ := Option.map_eq_some_iff.mp hst
    obtain rfl : port' = port := UInt16.toNat_inj.mp (Text.decimal_injective htext)
    exact ⟨(Config.logging_accepted hc hl).port_unique hr hs hrp hsp,
      Option.isSome_iff_exists.mpr ⟨_, hrp⟩⟩
  · rintro ⟨hid, hsome⟩
    obtain ⟨port, hport⟩ := Option.isSome_iff_exists.mp hsome
    rw [hid, hs] at hr
    obtain rfl := Option.some.inj hr
    have htext : (LogReceiver.configured s).portText? = some (Text.decimal port.toNat) :=
      Option.map_eq_some_iff.mpr ⟨port, hport, rfl⟩
    exact ⟨_, htext, htext⟩

/-- **The ports of resolved instances** are distinct exactly if no receiver that listens is
shared. -/
theorem Config.nodup_ports_iff {c : Config} (hc : c.check = .ok ()) {engine : LogEngine}
    {is : List LogInstance} (his : c.logInstances engine = .ok is) :
    (is.filterMap (·.receiver.portText?)).Nodup ↔ ¬ c.SharesListener engine := by
  obtain ⟨hb, hbound⟩ := Config.logInstances_eq_ok his
  have hdistinct : is.Nodup := List.Nodup.of_map _ hb
  constructor
  · rintro hnodup ⟨l, hl, id, receiver, port, hreceiver, hport, a, p, b, q, hab, hp, hpe, hidp, hq,
      hqe, hidq⟩
    rw [Config.logInstances, hl] at his
    -- each of the two pipelines has its own instance, and both listen on the one port
    obtain ⟨i, hi, rfl, hri⟩ := Logging.exists_instance his hp hpe hidp
    obtain ⟨j, hj, rfl, hrj⟩ := Logging.exists_instance his hq hqe hidq
    have hlistens : i.receiver.listenPort?.isSome := by
      obtain ⟨l', hl', hres⟩ := hbound i hi
      obtain rfl : l = l' := Option.some.inj (hl.symm.trans hl')
      obtain ⟨config, hget, hconfig⟩ := hres.receiver
      rw [hri, hreceiver] at hget
      obtain rfl := Option.some.inj hget
      rw [hconfig]
      exact Option.isSome_iff_exists.mpr ⟨port, hport⟩
    obtain ⟨text, hti, htj⟩ := (Config.portText?_eq_iff hc (hbound i hi) (hbound j hj)).mpr
      ⟨hri.trans hrj.symm, hlistens⟩
    exact hab (congrArg LogInstance.pipeline (eq_of_nodup_filterMap hnodup hi hj hti htj))
  · intro hshared
    rw [List.Nodup, List.pairwise_filterMap]
    refine hdistinct.pairwise_of_forall_ne ?_
    rintro i hi j hj hne text hti _ htj rfl
    obtain ⟨hid, hlistens⟩ :=
      (Config.portText?_eq_iff hc (hbound i hi) (hbound j hj)).mp ⟨text, hti, htj⟩
    obtain ⟨l, hl, hires⟩ := hbound i hi
    obtain ⟨l', hl', hjres⟩ := hbound j hj
    obtain rfl : l = l' := Option.some.inj (hl.symm.trans hl')
    obtain ⟨p, hp, hpe, hidp, -, -⟩ := hires.pipeline
    obtain ⟨q, hq, hqe, hidq, -, -⟩ := hjres.pipeline
    obtain ⟨config, hget, hconfig⟩ := hires.receiver
    rw [hconfig] at hlistens
    obtain ⟨port, hport⟩ := Option.isSome_iff_exists.mp hlistens
    -- in one pipeline, the two would have one base tag
    have hpipelines : i.pipeline ≠ j.pipeline := by
      intro hpl
      refine hne (List.inj_on_of_nodup_map hb hi hj ?_)
      rw [LogInstance.base_eq, LogInstance.base_eq, hpl, hid]
    exact hshared ⟨l, hl, i.receiverId, config, port, hget, hport, i.pipeline, p, j.pipeline, q,
      hpipelines, hp, hpe, hidp, hq, hqe, hid ▸ hidq⟩

namespace LogEngine

variable {c : Config} {p : Platform} {o : CompileOptions} {is : List LogInstance}
  {own : List (List Section)} {ss : List Section}

/-- **The ports of a run** are those on which the receivers of its instances listen, in order. -/
theorem Parts.portsIn_collected (h : Parts c p o is own ss)
    (hr : ∀ i ∈ is, ∃ config, i.receiver = .configured config) :
    portsIn (collected ss) = is.filterMap (·.receiver.portText?) := by
  have hself : (selfLogInput.section? selfLogTag).toList.flatMap (·.values "Port") = [] := by
    rfl
  have hinputs : portsIn (collected ss) = portsIn own.flatten := by
    rw [portsIn_eq_filter, portsIn_eq_filter, h.filter_kind_collected (by decide),
      filter_selfLogSections, ofKind_eq]
    cases o.selfLogs <;> simp [hself]
  rw [hinputs]
  -- what is left is about the instances alone, one after the other
  have heach := h.each
  clear h hinputs
  induction heach with
  | nil => rfl
  | @cons i part is own hi _ ih =>
      obtain ⟨⟨config, hconfig⟩, hrest⟩ := List.forall_mem_cons.mp hr
      have hsplit : portsIn (part :: own).flatten = portsIn part ++ portsIn own.flatten :=
        Section.valuesIn_append part own.flatten
      rw [hsplit, ih hrest, LogInstance.portsIn_sections hi.1,
        LogInstance.simplify_portText? hconfig]
      rw [List.filterMap_cons]
      cases i.receiver.portText? <;> rfl

/-- **The ports of a compilation that gives files.** The inputs say the ports on which the receivers
of the instances listen, in the order of the instances. They are distinct exactly if no receiver that
listens is listed by two pipelines for the log engine. -/
theorem compile_ports (hc : c.check = .ok ()) {files : Files} (h : compile c p o = .ok files) :
    ∃ is ss, c.logInstances .fluentBit = .ok is ∧ emittedSections c p o = .ok ss ∧
      Section.layout (mainVariables p.buffersDir p.logsDir) ss = .ok files ∧
      portsIn ss = is.filterMap (·.receiver.portText?) ∧
      ((portsIn ss).Nodup ↔ ¬ c.SharesListener .fluentBit) := by
  obtain ⟨is, own, ss, his, hparts, hemitted, hlayout, -, -⟩ := parts_of_compile h
  have hports := hparts.portsIn_collected (Config.receiver_configured his)
  refine ⟨is, collected ss, his, hemitted, hlayout, hports, ?_⟩
  rw [hports]
  exact Config.nodup_ports_iff hc his

/-- A pipeline with a receiver for each protocol, and one for files. -/
def listeningLogs : Config where
  logging := some {
    receivers := .ofList [
      ("f", .files { includePaths := ["/a.log"] }),
      ("s", .syslog "tcp" "0.0.0.0" 5140),
      ("t", .tcp none none "json"),
      ("w", .forward none none)]
    pipelines := .ofList [
      ("p", { receivers := ["w", "f", "s"] }),
      ("q", { receivers := ["t", "f"] })] }

/-- The inputs for `listeningLogs` have different ports. -/
theorem compile_ports_listeningLogs : listeningLogs.check = .ok () ∧
    ∃ files, compile listeningLogs samplePlatform { selfLogs := true } = .ok files ∧
      ∃ ss, emittedSections listeningLogs samplePlatform { selfLogs := true } = .ok ss ∧
        portsIn ss = ["24224", "5140", "5170"] ∧ ¬ listeningLogs.SharesListener .fluentBit := by
  have hc : listeningLogs.check = .ok () := rfl
  obtain ⟨files, h⟩ : ∃ files,
      compile listeningLogs samplePlatform { selfLogs := true } = .ok files :=
    exists_of_isOk rfl
  obtain ⟨is, ss, his, hss, -, hports, hnodup⟩ := compile_ports hc h
  have hlisten : (listeningLogs.logInstances .fluentBit).map (fun is =>
      is.filterMap (·.receiver.portText?)) = .ok ["24224", "5140", "5170"] := by
    rfl
  have hports : portsIn ss = ["24224", "5140", "5170"] :=
    hports.trans (eq_of_map_eq_ok his hlisten)
  refine ⟨hc, files, h, ss, hss, hports, hnodup.mp ?_⟩
  rw [hports]
  decide

/-- A syslog receiver that two pipelines list. -/
def sharedListener : Config where
  logging := some {
    receivers := .ofList [("s", .syslog "tcp" "0.0.0.0" 5140)]
    pipelines := .ofList [("p", { receivers := ["s"] }), ("q", { receivers := ["s"] })] }

/-- **Two inputs can listen on one port** in the files for an accepted configuration. -/
theorem compile_sharedListener : sharedListener.check = .ok () ∧
    (∃ files, compile sharedListener samplePlatform {} = .ok files) ∧
    ∃ ss, emittedSections sharedListener samplePlatform {} = .ok ss ∧
      portsIn ss = ["5140", "5140"] := by
  refine ⟨rfl, exists_of_isOk rfl, ?_⟩
  have h : (emittedSections sharedListener samplePlatform {}).map portsIn
      = .ok ["5140", "5140"] := by
    rfl
  exact map_eq_ok.mp h

end LogEngine

end Telemetry
