import Telemetry.Proofs.Names
import Telemetry.Proofs.SectionFile
import Telemetry.Section.Endpoint

/-!
# What is written into a section

Every section is made from a tag and from texts of the configuration. Two things are said here about
all ways to make one: to which records it is addressed, and when its values are one line each.

* **`Section.Addressed`** — filters match the routing pattern of the tag, and inputs put the tag on
  their records; all keys are plain.
* **`Writes`** — sections that are addressed by a tag and, where that is one line, are one line
  exactly if some texts are. The rules compose along lists of sections.
* **`Writes.filter`**, **`Writes.input`**, **`Writes.parser`** — what has to be known of one
  section. Each filter, input and parser has its own rule, which computes this by the view of the
  section.
-/

namespace Telemetry

/-! ## Texts made of other texts -/

@[simp] theorem oneLine_append (a b : String) : OneLine (a ++ b) ↔ OneLine a ∧ OneLine b := by
  simp [OneLine, not_or]

/-- Joined texts are one line if all are. -/
theorem oneLine_join {sep : String} (hsep : OneLine sep) (texts : List String) :
    OneLine (Text.join sep texts) ↔ ∀ text ∈ texts, OneLine text := by
  induction texts with
  | nil => simp [Text.join, OneLine]
  | cons text texts ih =>
      cases texts with
      | nil => simp [Text.join]
      | cons text' texts =>
          rw [Text.join, oneLine_append, oneLine_append, ih, List.forall_mem_cons]
          · simp [hsep]
          · simp

theorem oneLine_decimal (n : Nat) : OneLine (Text.decimal n) :=
  Text.notMem_decimal rfl n

/-- Replacing characters by others makes no line break. -/
theorem oneLine_mapChars {f : Char → Char} (hf : ∀ c, f c = '\n' → c = '\n') {s : String}
    (h : OneLine s) : OneLine (Text.mapChars f s) := by
  rw [OneLine, Text.mapChars, String.toList_ofList]
  intro hm
  obtain ⟨c, hc, hfc⟩ := List.mem_map.mp hm
  exact h (hf c hfc ▸ hc)

/-- The digits of a content hash. -/
theorem mem_contentHash {s : String} {c : Char} (h : c ∈ (contentHash s).toList) :
    c ∈ "0123456789abcdef".toList := by
  have hdigit : ∀ n, n < 16 → Digest.hexDigit n ∈ "0123456789abcdef".toList := by
    decide
  have hword : ∀ w, c ∈ Digest.hexWord w → c ∈ "0123456789abcdef".toList := by
    intro w hw
    obtain ⟨i, -, rfl⟩ := List.mem_map.mp hw
    exact hdigit _ (Nat.mod_lt _ (by decide))
  rw [contentHash, String.toList_ofList] at h
  simp only [List.mem_append] at h
  rcases h with ((h | h) | h) | h <;> exact hword _ h

theorem oneLine_contentHash (s : String) : OneLine (contentHash s) :=
  fun h => absurd (mem_contentHash h) (by decide)

theorem oneLine_fileName (script : String) : OneLine (Script.fileName script) :=
  (oneLine_append _ _).mpr ⟨oneLine_contentHash script, by decide⟩

/-! ## One section -/

namespace Section

/-- A line of a section is a field or an entry. -/
theorem mem_lines {s : Section} {l : String × String} :
    l ∈ s.lines ↔ s.get? l.1 = some l.2 ∨ l ∈ s.entries := by
  rw [lines, List.mem_append]
  exact or_congr_left Keyed.mem_entries_iff

@[simp] theorem lines_pushAll (s : Section) (es : List (String × String)) :
    (s.pushAll es).lines = s.lines ++ es := by
  simp [lines, pushAll]

@[simp] theorem oneLined_new (kind : SectionKind) : (new kind).OneLined :=
  List.forall_mem_nil _

/-- What holds of all lines with one more field: it holds of the field, and of all lines before if
it would still hold of a field that is replaced. -/
theorem forall_lines_set {P : String × String → Prop} {s : Section} {key value : String}
    (h : P (key, value) → ∀ old, s.get? key = some old → P (key, old)) :
    (∀ l ∈ (s.set key value).lines, P l) ↔ (∀ l ∈ s.lines, P l) ∧ P (key, value) := by
  constructor
  · intro hs
    have hnew : P (key, value) := hs _ (mem_lines.mpr (.inl (by simp)))
    refine ⟨?_, hnew⟩
    rintro ⟨k, v⟩ hl
    rcases mem_lines.mp hl with hget | hentry
    · by_cases hk : k = key
      · subst hk
        exact h hnew v hget
      · exact hs _ (mem_lines.mpr (.inl (by simpa [hk] using hget)))
    · exact hs _ (mem_lines.mpr (.inr hentry))
  · rintro ⟨hs, hnew⟩ ⟨k, v⟩ hl
    rcases mem_lines.mp hl with hget | hentry
    · rw [get?_set] at hget
      split at hget
      · rename_i hk
        obtain rfl : k = key := hk
        obtain rfl : value = v := Option.some.inj hget
        exact hnew
      · exact hs _ (mem_lines.mpr (.inl hget))
    · exact hs _ (mem_lines.mpr (.inr hentry))

/-- One more field has to be one line, and may replace one that is. -/
@[simp] theorem oneLined_set {s : Section} {key value : String}
    (h : ∀ old, s.get? key = some old → OneLine old) :
    (s.set key value).OneLined ↔ s.OneLined ∧ OneLine value :=
  forall_lines_set fun _ => h

@[simp] theorem oneLined_new_set (kind : SectionKind) (key value : String) :
    ((new kind).set key value).OneLined ↔ OneLine value := by
  rw [oneLined_set (by simp)]
  exact and_iff_right (oneLined_new kind)

@[simp] theorem oneLined_setIfSome {s : Section} {key : String} (h : s.get? key = none)
    (value : Option String) :
    (s.setIfSome key value).OneLined ↔ s.OneLined ∧ ∀ v ∈ value, OneLine v := by
  cases value with
  | none => simp [setIfSome]
  | some v => simp [setIfSome, h]

@[simp] theorem oneLined_pushAll (s : Section) (es : List (String × String)) :
    (s.pushAll es).OneLined ↔ s.OneLined ∧ ∀ e ∈ es, OneLine e.2 := by
  rw [OneLined, lines_pushAll]
  exact List.forall_mem_append

@[simp] theorem plainKeys_new (kind : SectionKind) : (new kind).PlainKeys :=
  List.forall_mem_nil _

@[simp] theorem plainKeys_set (s : Section) (key value : String) :
    (s.set key value).PlainKeys ↔ s.PlainKeys ∧ PlainKey key :=
  forall_lines_set fun hkey _ _ => hkey

@[simp] theorem plainKeys_setIfSome (s : Section) (key : String) (value : Option String) :
    (s.setIfSome key value).PlainKeys ↔ s.PlainKeys ∧ (value.isSome → PlainKey key) := by
  cases value with
  | none => simp [setIfSome]
  | some v => simp [setIfSome]

@[simp] theorem plainKeys_pushAll (s : Section) (es : List (String × String)) :
    (s.pushAll es).PlainKeys ↔ s.PlainKeys ∧ ∀ e ∈ es, PlainKey e.1 := by
  rw [PlainKeys, lines_pushAll]
  exact List.forall_mem_append

/-- The key under which an input has the tag of its records: clients extend a prefix. -/
def tagKey (t : Tag) : String :=
  if t.dynamic then "Tag_Prefix" else "Tag"

/-- A section belongs to a tag: a filter finds its records by the routing pattern, an input puts the
tag on its records, and a parser has a name. -/
structure Addressed (t : Tag) (s : Section) : Prop where
  filter : s.kind = .filter → s.values "Match" = [t.routing]
  input : s.kind = .input → s.values (tagKey t) = [t.input]
  keys : s.PlainKeys
  lines : s.lines ≠ []

theorem lines_ne_nil_of_get? {s : Section} (key value : String)
    (h : s.get? key = some value) : s.lines ≠ [] :=
  List.ne_nil_of_mem (mem_lines (l := (key, value)).mpr (.inl h))

theorem lines_ne_nil_of_values {s : Section} {key value : String} (h : s.values key = [value]) :
    s.lines ≠ [] := by
  intro hl
  rw [values, hl] at h
  exact List.cons_ne_nil value [] h.symm

end Section

/-- A tag is one line in all its uses. -/
structure Tag.Clean (t : Tag) : Prop where
  base : OneLine t.base
  input : OneLine t.input
  routing : OneLine t.routing

/-- Sections are addressed by a tag and, where that is one line, are one line exactly if some texts
are. -/
structure Writes (t : Tag) (ss : List Section) (texts : List String) : Prop where
  addressed : ∀ s ∈ ss, s.Addressed t
  oneLined_iff : t.Clean →
    ((∀ s ∈ ss, s.kind ≠ .file → s.OneLined) ↔ ∀ text ∈ texts, OneLine text)

namespace Writes

variable {t : Tag}

theorem nil : Writes t [] [] := ⟨by simp, by simp⟩

/-- Sections one behind the other have the texts of both. -/
theorem append {ss ss' : List Section} {a b : List String} (h : Writes t ss a)
    (h' : Writes t ss' b) : Writes t (ss ++ ss') (a ++ b) := by
  refine ⟨List.forall_mem_append.mpr ⟨h.addressed, h'.addressed⟩, ?_⟩
  intro ht
  rw [List.forall_mem_append, List.forall_mem_append, h.oneLined_iff ht, h'.oneLined_iff ht]

/-- One more section in front. -/
theorem cons {s : Section} {ss : List Section} {a b : List String} (h : Writes t [s] a)
    (h' : Writes t ss b) : Writes t (s :: ss) (a ++ b) :=
  h.append h'

/-- Sections for each member of a list. -/
theorem flatMap {α : Type} {as : List α} {f : α → List Section} {g : α → List String}
    (h : ∀ a ∈ as, Writes t (f a) (g a)) : Writes t (as.flatMap f) (as.flatMap g) := by
  induction as with
  | nil => exact nil
  | cons a as ih =>
      obtain ⟨ha, has⟩ := List.forall_mem_cons.mp h
      exact ha.append (ih has)

/-- Other texts will do that are one line in the same cases. -/
theorem congr {ss : List Section} {a b : List String} (h : Writes t ss a)
    (hab : t.Clean → ((∀ text ∈ a, OneLine text) ↔ ∀ text ∈ b, OneLine text)) : Writes t ss b :=
  ⟨h.addressed, fun ht => (h.oneLined_iff ht).trans (hab ht)⟩

/-! ## One section -/

variable {s : Section} {texts : List String}

/-- One section that is no file. -/
theorem single (ha : s.Addressed t) (hk : s.kind ≠ .file)
    (h : t.Clean → (s.OneLined ↔ ∀ text ∈ texts, OneLine text)) : Writes t [s] texts := by
  refine ⟨List.forall_mem_singleton.mpr ha, fun ht => ?_⟩
  rw [List.forall_mem_singleton, h ht]
  exact ⟨fun h => h hk, fun h _ => h⟩

/-- A filter that finds its records by the routing pattern. -/
theorem filter (hk : s.kind = .filter) (hv : s.values "Match" = [t.routing]) (hkeys : s.PlainKeys)
    (h : t.Clean → (s.OneLined ↔ ∀ text ∈ texts, OneLine text)) : Writes t [s] texts := by
  have hinput : s.kind ≠ .input := by simp [hk]
  have hfile : s.kind ≠ .file := by simp [hk]
  exact single ⟨fun _ => hv, fun h => absurd h hinput, hkeys, Section.lines_ne_nil_of_values hv⟩
    hfile h

/-- An input that puts the tag on its records. -/
theorem input (hk : s.kind = .input) (hv : s.values (Section.tagKey t) = [t.input])
    (hkeys : s.PlainKeys) (h : t.Clean → (s.OneLined ↔ ∀ text ∈ texts, OneLine text)) :
    Writes t [s] texts := by
  have hfilter : s.kind ≠ .filter := by simp [hk]
  have hfile : s.kind ≠ .file := by simp [hk]
  exact single ⟨fun h => absurd h hfilter, fun _ => hv, hkeys, Section.lines_ne_nil_of_values hv⟩
    hfile h

/-- A section for a parser, of either kind; it has some field. -/
theorem parser (key value : String) (hk : s.kind = .parser ∨ s.kind = .multilineParser)
    (hg : s.get? key = some value) (hkeys : s.PlainKeys)
    (h : t.Clean → (s.OneLined ↔ ∀ text ∈ texts, OneLine text)) : Writes t [s] texts := by
  have hother : ∀ kind, kind = .filter ∨ kind = .input ∨ kind = .file → s.kind ≠ kind := by
    rintro kind (rfl | rfl | rfl) he <;> simp [he] at hk
  exact single ⟨fun h => absurd h (hother _ (.inl rfl)),
    fun h => absurd h (hother _ (.inr (.inl rfl))), hkeys,
    Section.lines_ne_nil_of_get? key value hg⟩ (hother _ (.inr (.inr rfl))) h

/-- A file is no part of any section file. -/
theorem file (name contents : String) : Writes t [.ofFile name contents] [] := by
  have hk : (Section.ofFile name contents).kind = .file := rfl
  have hg : (Section.ofFile name contents).get? "filename" = some name := by
    simp [Section.ofFile, Section.ofFields]
  refine ⟨List.forall_mem_singleton.mpr ⟨?_, ?_, ?_, Section.lines_ne_nil_of_get? _ _ hg⟩, ?_⟩
  · simp [hk]
  · simp [hk]
  · simp +decide [Section.ofFile, Section.ofFields]
  · intro _
    simp [hk]

end Writes

/-! ## Filters -/

namespace Filter

/-- The texts of a change. -/
def ModifyOp.texts : ModifyOp → List String
  | add k v => [k, v]
  | set k v => [k, v]
  | rename s t => [s, t]
  | hardRename s t => [s, t]
  | hardCopy s t => [s, t]
  | remove k => [k]

theorem ModifyOp.oneLine_entry (op : ModifyOp) :
    OneLine op.entry.2 ↔ ∀ text ∈ op.texts, OneLine text := by
  cases op <;> simp +decide [entry, texts]

/-- The keys of changes are plain, and none of those that every such filter has. -/
theorem ModifyOp.entry_key (op : ModifyOp) :
    PlainKey op.entry.1 ∧ op.entry.1 ≠ "Name" ∧ op.entry.1 ≠ "Match" ∧
      op.entry.1 ≠ "Condition" := by
  have h : op.entry.1 ∈ ["Add", "Set", "Rename", "Hard_rename", "Hard_copy", "Remove"] := by
    cases op <;> simp [entry]
  revert h
  generalize op.entry.1 = key
  revert key
  decide

theorem oneLine_keyEquals (key value : String) :
    OneLine (keyEquals key value) ↔ OneLine key ∧ OneLine value := by
  have hhead : OneLine "Key_value_equals " := by decide
  have hsep : OneLine " " := by decide
  show OneLine ("Key_value_equals " ++ key ++ " " ++ value) ↔ _
  simp [hhead, hsep]

/-- The texts of a rule. -/
def LineRule.texts (r : LineRule) : List String :=
  [r.state, r.regex, r.next]

theorem LineRule.oneLine_render (r : LineRule) :
    OneLine r.render ↔ ∀ text ∈ r.texts, OneLine text := by
  simp +decide [render, texts, and_assoc]

end Filter

namespace Writes

open Section (ofFields values_eq)

variable {t : Tag}

theorem modify (ops : List Filter.ModifyOp) :
    Writes t [Filter.modify t.routing ops] (ops.flatMap (·.texts)) := by
  -- no change has the key `Match`, so that the field of the filter is the only one
  have hother := Carries.filter_entries_eq_nil (fun op : Filter.ModifyOp => op.entry_key.2.2.1) ops
  refine filter rfl ?_ ?_ fun ht => ?_
  · simp [values_eq, Filter.modify, Filter.named, ofFields, hother]
  · simp +decide [Filter.modify, Filter.named, ofFields, fun op : Filter.ModifyOp => op.entry_key.1]
  · simp +decide [Filter.modify, Filter.named, ofFields, ht.routing, Filter.ModifyOp.oneLine_entry,
      List.forall_mem_map, List.forall_mem_flatMap, -List.mem_map, -List.mem_flatMap]

theorem modifyIf (condition : String) (op : Filter.ModifyOp) :
    Writes t [Filter.modifyIf t.routing condition op] (condition :: op.texts) := by
  obtain ⟨hplain, hname, hmatch, hcondition⟩ := op.entry_key
  refine filter rfl ?_ ?_ fun ht => ?_
  · simp [values_eq, Filter.modifyIf, Filter.named, ofFields, Ne.symm hmatch]
  · simp +decide [Filter.modifyIf, Filter.named, ofFields, hplain]
  · simp +decide [Filter.modifyIf, Filter.named, ofFields, ht.routing, op.oneLine_entry, hname,
      hmatch, hcondition]

/-- A table of replacements, one filter for each row. -/
theorem mapValues (source target : String) (table : List (String × String)) :
    Writes t (Filter.mapValues t.routing source target false table)
      (table.flatMap fun row => [source, row.1, target, row.2]) := by
  have hrows : Filter.mapValues t.routing source target false table = table.flatMap fun row =>
      [Filter.modifyIf t.routing (Filter.keyEquals source row.1) (.add target row.2)] :=
    List.map_eq_flatMap
  rw [hrows]
  refine flatMap ?_
  intro row _
  refine (modifyIf (Filter.keyEquals source row.1) (.add target row.2)).congr fun _ => ?_
  simp [Filter.oneLine_keyEquals, Filter.ModifyOp.texts, and_assoc]

theorem nestFields (wildcard under head : String) :
    Writes t [Filter.nestFields t.routing wildcard under head] [wildcard, under, head] := by
  refine filter rfl ?_ ?_ fun ht => ?_
  · simp [values_eq, Filter.nestFields, Filter.named, ofFields]
  · simp +decide [Filter.nestFields, Filter.named, ofFields]
  · simp +decide [Filter.nestFields, Filter.named, ofFields, ht.routing, and_assoc]

theorem exclude (rules : List (String × String)) :
    Writes t [Filter.exclude t.routing rules] (rules.flatMap fun r => [r.1, r.2]) := by
  have hother : (rules.map fun r => ("Exclude", r.1 ++ " " ++ r.2)).filter (·.1 = "Match") = [] :=
    Carries.filter_entries_eq_nil (fun _ => by simp) rules
  rw [Filter.exclude]
  split <;> refine filter ?_ ?_ ?_ fun ht => ?_
  all_goals simp +decide [values_eq, Filter.named, ofFields, hother, List.forall_mem_map,
    List.forall_mem_flatMap, -List.mem_map, -List.mem_flatMap]
  all_goals simp [ht.routing]

/-- A filter that calls a script, and the file of the script. -/
theorem scriptFilter (function : String) (hf : OneLine function) (script : String) :
    Writes t (Script.filter t.routing function script) [] := by
  rw [Script.filter]
  refine cons (a := []) (b := []) (filter rfl ?_ ?_ fun ht => ?_) (file _ _)
  · simp [values_eq, ofFields]
  · simp +decide [ofFields]
  · simp +decide [ofFields, ht.routing, hf, oneLine_fileName]

theorem parse (key : String) (parsers : List String) (preserveKey : Bool) :
    Writes t [Filter.parse t.routing key parsers preserveKey] (key :: parsers) := by
  have hother : (parsers.map fun p => ("Parser", p)).filter (·.1 = "Match") = [] :=
    Carries.filter_entries_eq_nil (fun _ => by simp) parsers
  cases preserveKey <;> refine filter rfl ?_ ?_ fun ht => ?_
  all_goals simp +decide [values_eq, Filter.parse, Filter.named, ofFields, hother]
  all_goals simp [ht.routing]

/-- A field that is parsed between two scripts, by parsers whose names come from the tag. -/
theorem parseChain (field : Option String) {parser : String} (hparser : t.Clean → OneLine parser)
    (preserveKey : Bool) :
    Writes t (Filter.parseChain t.routing field [parser] preserveKey) [Filter.parseKey field] := by
  have h := (scriptFilter (t := t) "parser_nest" (by decide)
      (Script.nest (Filter.parseKey field))).append
    ((parse (Filter.parseKey field) [parser] preserveKey).cons
      (scriptFilter "parser_merge_record" (by decide) Script.merge))
  refine Writes.congr (a := [] ++ ([Filter.parseKey field, parser] ++ [])) h fun ht => ?_
  simp [hparser ht]

/-- A filter that joins lines by a parser whose name comes from the tag. -/
theorem joinLines {parser : String} (hparser : t.Clean → OneLine parser) :
    Writes t [Filter.joinLines t.routing parser] [] := by
  refine filter rfl ?_ ?_ fun ht => ?_
  · simp [values_eq, Filter.joinLines, Filter.named, ofFields]
  · simp +decide [Filter.joinLines, Filter.named, ofFields]
  · simp +decide [Filter.joinLines, Filter.named, ofFields, ht.routing, hparser ht]

/-- A line-joining parser whose name comes from the tag. -/
theorem lineParser {name : String} (hname : t.Clean → OneLine name) (rules : List Filter.LineRule) :
    Writes t [Filter.lineParser name rules] (rules.flatMap (·.texts)) := by
  refine parser "type" "regex" (.inr rfl) ?_ ?_ fun ht => ?_
  · simp [Filter.lineParser, ofFields]
  · simp +decide [Filter.lineParser, ofFields, List.forall_mem_map, -List.mem_map]
  · simp +decide [Filter.lineParser, ofFields, hname ht, Filter.LineRule.oneLine_render,
      List.forall_mem_map, List.forall_mem_flatMap, -List.mem_map, -List.mem_flatMap]

end Writes

/-! ## Parsers -/

namespace ParserDef

/-- The texts of a list of type conversions. -/
def typeTexts (types : Keyed String) : List String :=
  types.entries.flatMap fun f => [f.1, f.2]

/-- The texts of a parser besides its name. -/
def texts (d : ParserDef) : List String :=
  (match d.format with
    | .json => []
    | .regex e => [e])
  ++ d.timeKey.toList ++ d.timeFormat.toList ++ typeTexts d.types

theorem oneLine_renderTypes (types : Keyed String) :
    OneLine (renderTypes types) ↔ ∀ text ∈ typeTexts types, OneLine text := by
  rw [renderTypes, oneLine_join (by decide), typeTexts]
  simp +decide [List.forall_mem_map, List.forall_mem_flatMap, -List.mem_map, -List.mem_flatMap]

end ParserDef

namespace Writes

open Section (ofFields values_eq)

variable {t : Tag}

/-- A parser whose name comes from the tag. -/
theorem parserDef {d : ParserDef} (hname : t.Clean → OneLine d.name) :
    Writes t [d.toSection] d.texts := by
  obtain ⟨name, format, timeKey, timeFormat, types⟩ := d
  have htypes := ParserDef.oneLine_renderTypes types
  -- without conversions there is no field for them, and nothing that could break a line
  have hempty : types.isEmpty = true → OneLine (ParserDef.renderTypes types) := by
    intro h
    rw [htypes, ParserDef.typeTexts, List.isEmpty_iff.mp h]
    exact List.forall_mem_nil _
  cases format <;> cases h : types.isEmpty <;>
    refine parser "Name" name (.inl ?_) ?_ ?_ fun ht => ?_
  all_goals simp +decide [ParserDef.toSection, ParserDef.texts, h, ofFields,
    List.forall_mem_append, -List.mem_append]
  all_goals simp [← htypes, hname ht, hempty, h, and_assoc]

/-! ## Inputs -/

theorem positions (ht : t.Clean) : OneLine (Input.positions t) := by
  have hsafe : OneLine t.fileSafe := by
    refine oneLine_mapChars ?_ ht.base
    intro c hc
    split at hc
    · exact absurd hc (by decide)
    · exact hc
  simp +decide [Input.positions, variableRef, buffersVariable, hsafe]

/-- The input for the syslog protocol and its parser. -/
theorem syslog (hd : t.dynamic = false) (mode listen : String) (port : Nat) :
    Writes t (Input.syslog t mode listen port) [mode, listen] := by
  refine cons (a := [mode, listen]) (b := []) (input rfl ?_ ?_ fun ht => ?_)
    (parser "Format" "regex" (.inl rfl) ?_ ?_ fun ht => ?_)
  · simp [values_eq, Input.buffered, ofFields, Section.tagKey, hd]
  · simp +decide [Input.buffered, ofFields]
  · simp +decide [Input.buffered, ofFields, ht.input, oneLine_decimal]
  · simp [ofFields]
  · simp +decide [ofFields]
  · simp +decide [ofFields, ht.input]

theorem tcp (hd : t.dynamic = false) (listen : String) (port : Nat) (format : String) :
    Writes t [Input.tcp t listen port format] [listen, format] := by
  refine input rfl ?_ ?_ fun ht => ?_
  · simp [values_eq, Input.tcp, Input.buffered, ofFields, Section.tagKey, hd]
  · simp +decide [Input.tcp, Input.buffered, ofFields]
  · simp +decide [Input.tcp, Input.buffered, ofFields, ht.input, oneLine_decimal]

theorem forward (hd : t.dynamic = true) (listen : String) (port : Nat) :
    Writes t [Input.forward t listen port] [listen] := by
  refine input rfl ?_ ?_ fun ht => ?_
  · simp [values_eq, Input.forward, Input.buffered, ofFields, Section.tagKey, hd]
  · simp +decide [Input.forward, Input.buffered, ofFields]
  · simp +decide [Input.forward, Input.buffered, ofFields, ht.input, oneLine_decimal]

theorem eventLog (hd : t.dynamic = false) (channels : List String) :
    Writes t [Input.eventLog t channels] channels := by
  refine input rfl ?_ ?_ fun ht => ?_
  · simp [values_eq, Input.eventLog, ofFields, Section.tagKey, hd]
  · simp +decide [Input.eventLog, ofFields]
  · simp +decide [Input.eventLog, ofFields, ht.input, positions ht, oneLine_join]

/-- The input for files; without paths there is none. -/
theorem tail (hd : t.dynamic = false) {i : Input.Tail}
    (hparser : t.Clean → ∀ n ∈ i.lineParser, OneLine n) :
    Writes t (i.section? t).toList
      (if i.includePaths.isEmpty then []
        else i.includePaths ++ i.excludePaths ++ i.pathKey.toList) := by
  rw [Input.Tail.section?]
  split
  · exact nil
  · have hjoin : ∀ paths, OneLine (Text.join "," paths) ↔ ∀ path ∈ paths, OneLine path :=
      oneLine_join (by decide)
    by_cases he : i.excludePaths = [] <;> cases hm : i.bufferInMemory <;>
      refine input ?_ ?_ ?_ fun ht => ?_
    all_goals simp +decide [he, Input.buffered, ofFields, values_eq, Section.tagKey, hd]
    all_goals
      simp +contextual [ht.input, positions ht, oneLine_decimal, hjoin, hparser ht, and_assoc,
        or_imp, forall_and]

end Writes

end Telemetry
