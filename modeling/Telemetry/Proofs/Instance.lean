import Telemetry.Compile.LogEngine
import Telemetry.Proofs.Names
import Telemetry.Proofs.Simplify

/-!
# The sections of an instance

An instance whose components stand for nothing else has sections, and the names in them are known
without building them:

* **`LogProcessor.carries`**, **`LogReceiver.carries`** — the sections of one component, under the
  names that `LogProcessor.names` and `LogReceiver.names` give.
* **`LogInstance.sections_eq_ok`** — what the sections of an instance are: those of its components,
  in order, and the closing filters.
* **`LogInstance.Plain.sections_carries`** — such an instance has sections, and their names.
-/

namespace Telemetry

open Failing

/-! ## Inputs and parsers -/

namespace Carries

/-- The names of an input are those in its fields, if it has no further entries. -/
theorem inputFields {s : Section} {d p l : Option String} (hk : s.kind = .input)
    (he : s.entries = []) (hd : s.get? "DB" = d) (hp : s.get? "Parser" = p)
    (hl : s.get? "multiline.parser" = l) :
    Carries [s] {
      databases := d.toList
      parserUses := p.toList
      lineParserUses := l.toList } := by
  have h := input hk
  simp only [Section.values_eq, he, hd, hp, hl, List.filter_nil, List.map_nil,
    List.append_nil] at h
  exact h

/-- A file input has a position database, and may use a line-joining parser. -/
theorem tail {t : Input.Tail} {tag : Tag} {s : Section} (h : t.section? tag = some s) :
    Carries [s] { databases := [Input.positions tag], lineParserUses := t.lineParser.toList } := by
  rw [Input.Tail.section?] at h
  split at h
  · exact nomatch h
  · obtain rfl := Option.some.inj h
    split <;> split <;>
      refine inputFields (d := some (Input.positions tag)) (p := none) ?_ ?_ ?_ ?_ ?_ <;>
      simp [Input.buffered, Section.ofFields]

/-- The input for the syslog protocol uses a parser of its own. -/
theorem syslog (tag : Tag) (mode listen : String) (port : Nat) :
    Carries (Input.syslog tag mode listen port)
      { parsers := [tag.input], parserUses := [tag.input] } := by
  refine cons (a := { parserUses := [tag.input] }) (b := { parsers := [tag.input] }) ?_ ?_
  · refine inputFields (d := none) (p := some tag.input) (l := none) ?_ ?_ ?_ ?_ ?_ <;>
      simp [Input.buffered, Section.ofFields]
  · refine parser ?_ ?_ ?_ <;> simp [Section.ofFields]

theorem tcp (tag : Tag) (listen : String) (port : Nat) (format : String) :
    Carries [Input.tcp tag listen port format] {} := by
  refine inputFields (d := none) (p := none) (l := none) ?_ ?_ ?_ ?_ ?_ <;>
    simp [Input.tcp, Input.buffered, Section.ofFields]

theorem forward (tag : Tag) (listen : String) (port : Nat) :
    Carries [Input.forward tag listen port] {} := by
  refine inputFields (d := none) (p := none) (l := none) ?_ ?_ ?_ ?_ ?_ <;>
    simp [Input.forward, Input.buffered, Section.ofFields]

theorem kind_parserDef (d : ParserDef) : d.toSection.kind = .parser := by
  rw [ParserDef.toSection]
  split <;> split <;> simp

/-- The definition of a parser. -/
theorem parserDef (d : ParserDef) : Carries [d.toSection] { parsers := [d.name] } := by
  rw [ParserDef.toSection]
  split <;> split <;> refine parser ?_ ?_ ?_ <;> simp [Section.ofFields]

/-- The sections for the event log: the input has a position database, and the filter uses the
parser for the time. -/
theorem eventLog (tag : Tag) (channels : List String) :
    Carries (eventLogSections tag channels) {
      parsers := [tag.base ++ ".timestamp_parser"]
      databases := [Input.positions tag]
      parserUses := [tag.base ++ ".timestamp_parser"] } := by
  have hi : Carries [Input.eventLog tag channels] { databases := [Input.positions tag] } := by
    refine inputFields (d := some (Input.positions tag)) (p := none) (l := none) ?_ ?_ ?_ ?_ ?_ <;>
      simp [Input.eventLog, Section.ofFields]
  have hp := parserDef (.regex (tag.base ++ ".timestamp_parser") eventTimeRegex
    (some ("timestamp", "%Y-%m-%d %H:%M:%S %z")))
  have hf := parse tag.routing "TimeGenerated" [tag.base ++ ".timestamp_parser"] true
  have hm := mapValues tag.routing "EventType" severityKey false eventSeverities
  exact hi.cons (hp.cons (hf.cons hm))

end Carries

/-! ## Processors -/

namespace LogProcessor

/-- Whether the processor brings a parser along. -/
def hasParser : LogProcessor → Bool
  | configured (.parseJson _) => true
  | configured (.parseRegex _) => true
  | _ => false

/-- The names in the sections of a processor. -/
def names (p : LogProcessor) (uid : String) : Names :=
  match p with
  | configured (.parseJson _) => { parsers := [uid], parserUses := [uid] }
  | configured (.parseRegex _) => { parsers := [uid], parserUses := [uid] }
  | configured (.parseMultiline _) =>
    { lineParsers := ["multiline." ++ uid], lineParserUses := ["multiline." ++ uid] }
  | builtinParser name => { parserUses := [name] }
  | _ => {}

theorem names_parsers (p : LogProcessor) (uid : String) :
    (p.names uid).parsers = if p.hasParser then [uid] else [] := by
  cases p with
  | configured config => cases config <;> rfl
  | _ => rfl

theorem names_lineParsers (p : LogProcessor) (uid : String) :
    (p.names uid).lineParsers = if p.lineRules?.isSome then ["multiline." ++ uid] else [] := by
  cases p with
  | configured config => cases config <;> rfl
  | _ => rfl

/-- A processor uses its own parser or a built-in one. -/
theorem mem_parserUses {p : LogProcessor} {uid n : String} (h : n ∈ (p.names uid).parserUses) :
    n ∈ (p.names uid).parsers ∨ p = .builtinParser n := by
  match p with
  | configured (.parseJson _) => exact .inl h
  | configured (.parseRegex _) => exact .inl h
  | builtinParser name =>
      obtain rfl := List.mem_singleton.mp h
      exact .inr rfl
  | configured (.parseMultiline _) => exact nomatch h
  | configured (.excludeLogs _) => exact nomatch h
  | configured (.modifyFields _) => exact nomatch h
  | configured (.app _) => exact nomatch h
  | severity _ _ => exact nomatch h
  | httpRequest => exact nomatch h

/-- A processor uses its own line-joining parser. -/
theorem names_lineParserUses (p : LogProcessor) (uid : String) :
    (p.names uid).lineParserUses = (p.names uid).lineParsers := by
  cases p with
  | configured config => cases config <;> rfl
  | _ => rfl

/-- Only receivers have position databases. -/
theorem names_databases (p : LogProcessor) (uid : String) : (p.names uid).databases = [] := by
  cases p with
  | configured config => cases config <;> rfl
  | _ => rfl

/-- **The sections of a processor** that does not stand for others. -/
theorem carries {p : LogProcessor} (h : p.expand? = none) (tag : Tag) (uid : String) :
    ∃ ss, p.sections? tag uid = some ss ∧ Carries ss (p.names uid) := by
  match p with
  | configured (.parseJson q) =>
      exact ⟨_, rfl, (Carries.parserDef (q.parser uid)).cons (Carries.parseChain _ _ _ _)⟩
  | configured (.parseRegex q) =>
      exact ⟨_, rfl, (Carries.parserDef (q.parser uid)).cons (Carries.parseChain _ _ _ _)⟩
  | configured (.parseMultiline gs) =>
      exact ⟨_, rfl, (Carries.lineParser _ _).cons (Carries.joinLines _ _)⟩
  | configured (.excludeLogs rs) => exact ⟨_, rfl, Carries.exclude _ _⟩
  | configured (.modifyFields m) =>
      refine ⟨_, rfl, Carries.append (a := {}) (b := {}) ?_ ?_⟩
      · split
        · exact Carries.nil
        · exact Carries.modify _ _
      · refine Carries.of_forall_empty ?_
        intro s hs
        obtain ⟨⟨field, change⟩, -, hs⟩ := List.mem_flatMap.mp hs
        obtain ⟨⟨old, new⟩, -, rfl⟩ := List.mem_map.mp hs
        exact Carries.modifyIf _ _ _
  | configured (.app _) => exact nomatch h
  | builtinParser name => exact ⟨_, rfl, Carries.parse _ _ _ _⟩
  | severity source table => exact ⟨_, rfl, Carries.mapValues _ _ _ _ _⟩
  | httpRequest =>
      refine ⟨_, rfl, Carries.append (a := {}) (b := {}) ?_ (Carries.nestFields _ _ _ _)⟩
      refine Carries.of_forall_empty ?_
      intro s hs
      obtain ⟨field, -, rfl⟩ := List.mem_map.mp hs
      exact Carries.modifyIf _ _ _

end LogProcessor

/-! ## Receivers -/

/-- The names in the sections for files. Without paths there is no input, but line rules still
define their parser. -/
def FileSource.names (s : FileSource) (rules : List Filter.LineRule) (tag : Tag) : Names where
  lineParsers := if rules.isEmpty then [] else ["multiline." ++ tag.base]
  databases := if s.includePaths.isEmpty then [] else [Input.positions tag]
  lineParserUses :=
    if rules.isEmpty || s.includePaths.isEmpty then [] else ["multiline." ++ tag.base]

/-- **The sections for files**, with line rules or without. -/
theorem FileSource.carries (s : FileSource) (rules : List Filter.LineRule) (tag : Tag) :
    Carries (s.sections rules tag) (s.names rules tag) := by
  have hinput : ∀ parser : Option String, Carries ((s.input parser).section? tag).toList
      { databases := if s.includePaths.isEmpty then [] else [Input.positions tag],
        lineParserUses := if s.includePaths.isEmpty then [] else parser.toList } := by
    intro parser
    cases hs : (s.input parser).section? tag with
    | none =>
        have hpaths : s.includePaths.isEmpty = true := by
          rw [Input.Tail.section?] at hs
          split at hs
          · assumption
          · exact nomatch hs
        rw [hpaths]
        exact Carries.nil
    | some section' =>
        have hpaths : ¬ s.includePaths.isEmpty = true := by
          rw [Input.Tail.section?] at hs
          split at hs
          · exact nomatch hs
          · assumption
        rw [if_neg hpaths, if_neg hpaths]
        exact Carries.tail hs
  rw [FileSource.sections, FileSource.names]
  cases rules with
  | nil => simpa using hinput none
  | cons rule rules =>
      have h := (Carries.lineParser ("multiline." ++ tag.base) (rule :: rules)).cons
        ((Carries.modify tag.routing [.rename "log" "message"]).cons
          ((Carries.scriptFilter tag.routing "strip_newline" Script.stripNewline).append
            (hinput (some ("multiline." ++ tag.base)))))
      simp only [Names.empty_append] at h
      exact h

namespace LogReceiver

/-- The names in the sections of a receiver. -/
def names (r : LogReceiver) (tag : Tag) : Names :=
  match r with
  | configured (.files s) => s.names [] tag
  | configured (.syslog _ _ _) => { parsers := [tag.input], parserUses := [tag.input] }
  | configured (.eventLog _) => {
      parsers := [tag.base ++ ".timestamp_parser"]
      databases := [Input.positions tag]
      parserUses := [tag.base ++ ".timestamp_parser"] }
  | tail s rules => s.names rules tag
  | _ => {}

/-- A receiver uses its own parser. -/
theorem names_parserUses (r : LogReceiver) (tag : Tag) :
    (r.names tag).parserUses = (r.names tag).parsers := by
  cases r with
  | configured config => cases config <;> rfl
  | tail s rules => rfl

/-- A receiver uses its own line-joining parser. -/
theorem mem_lineParserUses {r : LogReceiver} {tag : Tag} {n : String}
    (h : n ∈ (r.names tag).lineParserUses) : n ∈ (r.names tag).lineParsers := by
  have key : ∀ (s : FileSource) (rules : List Filter.LineRule),
      n ∈ (s.names rules tag).lineParserUses → n ∈ (s.names rules tag).lineParsers := by
    intro s rules h
    rw [FileSource.names] at h ⊢
    cases rules with
    | nil => exact nomatch h
    | cons rule rules =>
        cases hs : s.includePaths.isEmpty with
        | true => simp [hs] at h
        | false => simpa [hs] using h
  cases r with
  | tail s rules => exact key s rules h
  | configured config =>
      cases config with
      | files s => exact key s [] h
      | _ => exact nomatch h

/-- **The sections of a receiver** that does not stand for another. -/
theorem carries {r : LogReceiver} (h : r.expand? = none) (tag : Tag) :
    ∃ ss, r.sections? tag = some ss ∧ Carries ss (r.names tag) := by
  match r with
  | configured (.files s) => exact nomatch h
  | configured (.syslog _ _ _) => exact ⟨_, rfl, Carries.syslog _ _ _ _⟩
  | configured (.tcp _ _ _) => exact ⟨_, rfl, Carries.tcp _ _ _ _⟩
  | configured (.forward _ _) => exact ⟨_, rfl, Carries.forward _ _ _⟩
  | configured (.eventLog _) => exact ⟨_, rfl, Carries.eventLog _ _⟩
  | configured (.app _ _) => exact nomatch h
  | tail s rules => exact ⟨_, rfl, s.carries rules tag⟩

end LogReceiver

/-! ## Instances -/

namespace LogInstance

/-- The name by which the processor at a position addresses what it brings along. -/
def uid (i : LogInstance) (k : Nat) : String :=
  i.tag.base ++ "." ++ Text.decimal k

/-- The names in the sections of an instance. -/
def names (i : LogInstance) : Names :=
  i.receiver.names i.tag
    ++ Names.all (i.processors.zipIdx.map fun x => x.1.processor.names (i.uid x.2))

/-- Processors have their sections one behind the other, each under the name of its position. -/
theorem processorSections_eq_ok {i : LogInstance} {bs : List Binding} {k : Nat}
    {ss : List Section} :
    i.processorSections i.tag k bs = .ok ss ↔
      ∃ parts, List.Forall₂ (fun x part => x.1.processor.sections? i.tag (i.uid x.2) = some part)
        (bs.zipIdx k) parts ∧ parts.flatten = ss := by
  induction bs generalizing k ss with
  | nil => simp [processorSections]
  | cons b bs ih =>
      rw [processorSections]
      simp only [List.zipIdx_cons, List.forall₂_cons_left_iff]
      constructor
      · intro h
        split at h
        · rename_i own hown
          obtain ⟨_, hsame, h⟩ := bind_eq_ok.mp h
          obtain rfl := Except.ok.inj hsame
          obtain ⟨rest, hrest, h⟩ := bind_eq_ok.mp h
          obtain rfl := Except.ok.inj h
          obtain ⟨parts, hparts, rfl⟩ := ih.mp hrest
          exact ⟨own :: parts, ⟨own, parts, hown, hparts, rfl⟩, rfl⟩
        · exact nomatch h
      · rintro ⟨_, ⟨own, parts, hown, hparts, rfl⟩, rfl⟩
        have hown' : b.processor.sections? i.tag (i.tag.base ++ "." ++ Text.decimal k) = some own :=
          hown
        rw [hown']
        exact bind_eq_ok.mpr ⟨own, rfl, bind_eq_ok.mpr ⟨_, ih.mpr ⟨parts, hparts, rfl⟩, rfl⟩⟩

/-- **What the sections of an instance are:** those of the receiver, of the processors in order, and
the closing filters. -/
theorem sections_eq_ok {i : LogInstance} {p : Platform} {ss : List Section} :
    i.sections p = .ok ss ↔ ∃ receiver parts, i.receiver.sections? i.tag = some receiver ∧
      List.Forall₂ (fun x part => x.1.processor.sections? i.tag (i.uid x.2) = some part)
        i.processors.zipIdx parts ∧
      receiver ++ parts.flatten ++ i.closingSections i.tag p = ss := by
  rw [sections]
  constructor
  · intro h
    obtain ⟨receiver, hreceiver, h⟩ := bind_eq_ok.mp h
    obtain ⟨processors, hprocessors, h⟩ := bind_eq_ok.mp h
    obtain ⟨parts, hparts, rfl⟩ := processorSections_eq_ok.mp hprocessors
    refine ⟨receiver, parts, ?_, hparts, Except.ok.inj h⟩
    rw [receiverSections] at hreceiver
    split at hreceiver
    · rename_i hs
      exact hs.trans (congrArg some (Except.ok.inj hreceiver))
    · exact nomatch hreceiver
  · rintro ⟨receiver, parts, hreceiver, hparts, rfl⟩
    have hreceiver' : i.receiverSections i.tag = .ok receiver := by
      rw [receiverSections]
      rw [hreceiver]
    exact bind_eq_ok.mpr ⟨receiver, hreceiver', bind_eq_ok.mpr
      ⟨_, processorSections_eq_ok.mpr ⟨parts, hparts, rfl⟩, rfl⟩⟩

/-- The sections of the processors of a plain instance. -/
theorem processors_carry (i : LogInstance) {bs : List Binding}
    (h : ∀ b ∈ bs, b.processor.expand? = none) (k : Nat) :
    ∃ parts, List.Forall₂ (fun x part => x.1.processor.sections? i.tag (i.uid x.2) = some part)
        (bs.zipIdx k) parts ∧
      Carries parts.flatten
        (Names.all ((bs.zipIdx k).map fun x => x.1.processor.names (i.uid x.2))) := by
  induction bs generalizing k with
  | nil => exact ⟨[], .nil, Carries.nil⟩
  | cons b bs ih =>
      obtain ⟨hb, hbs⟩ := List.forall_mem_cons.mp h
      obtain ⟨own, hown, hc⟩ := LogProcessor.carries hb i.tag (i.uid k)
      obtain ⟨parts, hparts, hc'⟩ := ih hbs (k + 1)
      exact ⟨own :: parts, .cons hown hparts, hc.append hc'⟩

/-- **A plain instance has sections,** and they have its names. -/
theorem Plain.sections_carries {i : LogInstance} (h : i.Plain) (p : Platform) :
    ∃ ss, i.sections p = .ok ss ∧ Carries ss i.names := by
  obtain ⟨receiver, hreceiver, hr⟩ := LogReceiver.carries h.receiver i.tag
  obtain ⟨parts, hparts, hp⟩ := i.processors_carry h.processors 0
  have hclosing : Carries (i.closingSections i.tag p) {} := by
    refine Carries.cons (a := {}) (b := {}) (Carries.modify _ _) ?_
    split
    · exact Carries.scriptFilter _ _ _
    · exact Carries.nil
  have hc := (hr.append hp).append hclosing
  rw [Names.append_empty] at hc
  exact ⟨_, sections_eq_ok.mpr ⟨receiver, parts, hreceiver, hparts, rfl⟩, hc⟩

end LogInstance

end Telemetry
