import Mathlib.Data.List.Forall2
import Telemetry.Logging.Receiver
import Telemetry.Proofs.Section
import Telemetry.Section.Registry

/-!
# Names that sections define and use

Sections refer to each other by name: filters and inputs apply parsers, and inputs keep their
positions in databases. Of all that sections say, **`Names`** keeps just that.

* **`namesIn`** — the names that sections define and use, read from their lines.
* **`Section.Regular`** — what every section has in common that a component brings: a kind among the
  known ones, a name if it is a parser, and the hash of its contents as the name if it is a file.
* **`Carries`** — sections that are all regular, with the names in them. Each way to build a section
  has a rule, and the rules compose along the lists of a pipeline.
-/

namespace Telemetry

open Section (values valuesIn)

/-- The names that sections define and use. -/
@[ext]
structure Names where
  /-- The names of parsers. -/
  parsers : List String := []
  /-- The names of line-joining parsers. -/
  lineParsers : List String := []
  /-- The position databases of inputs. -/
  databases : List String := []
  /-- The parsers that filters and inputs apply. -/
  parserUses : List String := []
  /-- The line-joining parsers that filters and inputs apply. -/
  lineParserUses : List String := []

namespace Names

/-- The names of two lists of sections, one behind the other. -/
def append (a b : Names) : Names where
  parsers := a.parsers ++ b.parsers
  lineParsers := a.lineParsers ++ b.lineParsers
  databases := a.databases ++ b.databases
  parserUses := a.parserUses ++ b.parserUses
  lineParserUses := a.lineParserUses ++ b.lineParserUses

instance : Append Names := ⟨append⟩

@[simp] theorem append_parsers (a b : Names) : (a ++ b).parsers = a.parsers ++ b.parsers := rfl
@[simp] theorem append_lineParsers (a b : Names) :
    (a ++ b).lineParsers = a.lineParsers ++ b.lineParsers := rfl
@[simp] theorem append_databases (a b : Names) :
    (a ++ b).databases = a.databases ++ b.databases := rfl
@[simp] theorem append_parserUses (a b : Names) :
    (a ++ b).parserUses = a.parserUses ++ b.parserUses := rfl
@[simp] theorem append_lineParserUses (a b : Names) :
    (a ++ b).lineParserUses = a.lineParserUses ++ b.lineParserUses := rfl

/-- The names of several lists of sections, one behind the other. -/
def all (ns : List Names) : Names where
  parsers := ns.flatMap (·.parsers)
  lineParsers := ns.flatMap (·.lineParsers)
  databases := ns.flatMap (·.databases)
  parserUses := ns.flatMap (·.parserUses)
  lineParserUses := ns.flatMap (·.lineParserUses)

@[simp] theorem append_empty (a : Names) : a ++ ({} : Names) = a := by
  ext1 <;> simp

@[simp] theorem empty_append (a : Names) : ({} : Names) ++ a = a := by
  ext1 <;> simp

end Names

/-- The names in the lines of sections. -/
def namesIn (ss : List Section) : Names where
  parsers := valuesIn [.parser] "Name" ss
  lineParsers := valuesIn [.multilineParser] "name" ss
  databases := valuesIn [.input] "DB" ss
  parserUses := valuesIn [.filter, .input] "Parser" ss
  lineParserUses := valuesIn [.filter, .input] "multiline.parser" ss

@[simp] theorem namesIn_append (ss ss' : List Section) :
    namesIn (ss ++ ss') = namesIn ss ++ namesIn ss' := by
  ext1 <;> simp [namesIn]

/-- What every section has in common that a component brings. -/
structure Section.Regular (s : Section) : Prop where
  kind : s.kind = .input ∨ s.kind = .filter ∨ s.kind = .parser ∨ s.kind = .multilineParser ∨
    s.kind = .file
  parser : s.kind = .parser → s.values "Name" = [ParserRegistry.nameOf s]
  file : ∀ name contents, s.file? = some (name, contents) → name = Script.fileName contents

/-- Inputs, filters and line-joining parsers are regular whatever they say. -/
theorem Section.regular_of_kind {s : Section}
    (hk : s.kind = .input ∨ s.kind = .filter ∨ s.kind = .multilineParser) : s.Regular := by
  have hp : s.kind ≠ .parser := by
    intro h
    rw [h] at hk
    simp at hk
  have hf : s.kind ≠ .file := by
    intro h
    rw [h] at hk
    simp at hk
  refine ⟨?_, fun h => absurd h hp, ?_⟩
  · rcases hk with h | h | h
    · exact .inl h
    · exact .inr (.inl h)
    · exact .inr (.inr (.inr (.inl h)))
  · intro name contents h
    rw [Section.file?, if_neg hf] at h
    exact nomatch h

/-- The sections are regular and have the given names. -/
structure Carries (ss : List Section) (names : Names) : Prop where
  regular : ∀ s ∈ ss, s.Regular
  names_eq : namesIn ss = names

/-! ## Kinds of sections -/

namespace Filter

@[simp] theorem kind_parse (routing key : String) (parsers : List String) (preserveKey : Bool) :
    (parse routing key parsers preserveKey).kind = .filter := by
  cases preserveKey <;> rfl

@[simp] theorem kind_modify (routing : String) (ops : List ModifyOp) :
    (modify routing ops).kind = .filter := rfl

@[simp] theorem kind_modifyIf (routing condition : String) (op : ModifyOp) :
    (modifyIf routing condition op).kind = .filter := rfl

@[simp] theorem kind_nestFields (routing wildcard under head : String) :
    (nestFields routing wildcard under head).kind = .filter := rfl

@[simp] theorem kind_exclude (routing : String) (rules : List (String × String)) :
    (exclude routing rules).kind = .filter := by
  rw [exclude]
  split <;> rfl

@[simp] theorem kind_joinLines (routing parser : String) :
    (joinLines routing parser).kind = .filter := rfl

@[simp] theorem kind_lineParser (name : String) (rules : List LineRule) :
    (lineParser name rules).kind = .multilineParser := rfl

end Filter

namespace Carries

theorem nil : Carries [] {} := ⟨by simp, rfl⟩

/-- Sections one behind the other have the names of both. -/
theorem append {ss ss' : List Section} {a b : Names} (h : Carries ss a) (h' : Carries ss' b) :
    Carries (ss ++ ss') (a ++ b) := by
  refine ⟨?_, ?_⟩
  · intro s hs
    rcases List.mem_append.mp hs with hs | hs
    · exact h.regular s hs
    · exact h'.regular s hs
  · rw [namesIn_append, h.names_eq, h'.names_eq]

/-- One more section in front. -/
theorem cons {s : Section} {ss : List Section} {a b : Names} (h : Carries [s] a)
    (h' : Carries ss b) : Carries (s :: ss) (a ++ b) :=
  h.append h'

/-- Several lists of sections have the names of all. -/
theorem all {sss : List (List Section)} {ns : List Names} (h : List.Forall₂ Carries sss ns) :
    Carries sss.flatten (Names.all ns) := by
  induction h with
  | nil => exact nil
  | cons hs _ ih => exact hs.append ih

/-- Sections that have no names each have none together. -/
theorem of_forall_empty {ss : List Section} (h : ∀ s ∈ ss, Carries [s] {}) : Carries ss {} := by
  induction ss with
  | nil => exact nil
  | cons s ss ih =>
      obtain ⟨hs, hss⟩ := List.forall_mem_cons.mp h
      exact hs.cons (ih hss)

/-! ## One section -/

/-- A filter uses names and defines none. -/
theorem filter {s : Section} (hk : s.kind = .filter) :
    Carries [s] { parserUses := s.values "Parser", lineParserUses := s.values "multiline.parser" } := by
  refine ⟨List.forall_mem_singleton.mpr (Section.regular_of_kind (.inr (.inl hk))), ?_⟩
  ext1 <;> simp [namesIn, Section.valuesIn_cons, hk]

/-- An input keeps its positions somewhere, and uses names. -/
theorem input {s : Section} (hk : s.kind = .input) :
    Carries [s] {
      databases := s.values "DB"
      parserUses := s.values "Parser"
      lineParserUses := s.values "multiline.parser" } := by
  refine ⟨List.forall_mem_singleton.mpr (Section.regular_of_kind (.inl hk)), ?_⟩
  ext1 <;> simp [namesIn, Section.valuesIn_cons, hk]

/-- A section for a parser defines its name, if it says it once. -/
theorem parser {s : Section} {name : String} (hk : s.kind = .parser) (hg : s.get? "Name" = some name)
    (he : s.entries = []) : Carries [s] { parsers := [name] } := by
  have hv : s.values "Name" = [name] := by
    rw [Section.values_eq, hg, he]
    rfl
  have hn : ParserRegistry.nameOf s = name := by
    rw [ParserRegistry.nameOf, hg, Option.getD_some]
  refine ⟨List.forall_mem_singleton.mpr ⟨.inr (.inr (.inl hk)), ?_, ?_⟩, ?_⟩
  · intro _
    rw [hv, hn]
  · intro name contents h
    rw [Section.file?, if_neg (by simp [hk])] at h
    exact nomatch h
  · ext1 <;> simp [namesIn, Section.valuesIn_cons, hk, hv]

/-- A section for a line-joining parser defines its name. -/
theorem lineParser (name : String) (rules : List Filter.LineRule) :
    Carries [Filter.lineParser name rules] { lineParsers := [name] } := by
  have hk : (Filter.lineParser name rules).kind = .multilineParser := rfl
  have hv : (Filter.lineParser name rules).values "name" = [name] := by
    simp [Section.values_eq, Filter.lineParser, Section.ofFields]
  refine ⟨List.forall_mem_singleton.mpr (Section.regular_of_kind (.inr (.inr hk))), ?_⟩
  ext1 <;> simp [namesIn, Section.valuesIn_cons, hv]

/-- A script is a file under the hash of its text. -/
theorem script (text : String) : Carries [.ofFile (Script.fileName text) text] {} := by
  have hk : (Section.ofFile (Script.fileName text) text).kind = .file := rfl
  refine ⟨List.forall_mem_singleton.mpr ⟨.inr (.inr (.inr (.inr hk))), ?_, ?_⟩, ?_⟩
  · intro h
    rw [hk] at h
    exact nomatch h
  · intro name contents h
    have hf : (Section.ofFile (Script.fileName text) text).file?
        = some (Script.fileName text, text) := by
      simp [Section.file?, Section.ofFile, Section.ofFields]
    rw [hf] at h
    obtain ⟨rfl, rfl⟩ := Prod.mk.inj (Option.some.inj h)
    rfl
  · ext1 <;> simp [namesIn, Section.valuesIn_cons, hk]

/-! ## Filters -/

/-- Entries with other keys have no say. -/
theorem filter_entries_eq_nil {α : Type} {f : α → String × String} {key : String}
    (h : ∀ a, (f a).1 ≠ key) (as : List α) : (as.map f).filter (·.1 = key) = [] := by
  refine List.filter_eq_nil_iff.mpr ?_
  intro e he
  obtain ⟨a, -, rfl⟩ := List.mem_map.mp he
  simpa using h a

/-- A filter that applies no parser has no names. -/
theorem silent {s : Section} (hk : s.kind = .filter) (hp : s.values "Parser" = [])
    (hl : s.values "multiline.parser" = []) : Carries [s] {} := by
  have h := filter hk
  rw [hp, hl] at h
  exact h

/-- Changes of fields apply no parser. -/
theorem modifyOp_entry (op : Filter.ModifyOp) :
    op.entry.1 ≠ "Parser" ∧ op.entry.1 ≠ "multiline.parser" := by
  cases op <;> simp [Filter.ModifyOp.entry]

theorem modify (routing : String) (ops : List Filter.ModifyOp) :
    Carries [Filter.modify routing ops] {} := by
  have hp := filter_entries_eq_nil (fun op => (modifyOp_entry op).1) ops
  have hl := filter_entries_eq_nil (fun op => (modifyOp_entry op).2) ops
  refine silent (Filter.kind_modify _ _) ?_ ?_
  · simp [Section.values_eq, Filter.modify, Filter.named, Section.ofFields, hp]
  · simp [Section.values_eq, Filter.modify, Filter.named, Section.ofFields, hl]

theorem modifyIf (routing condition : String) (op : Filter.ModifyOp) :
    Carries [Filter.modifyIf routing condition op] {} := by
  obtain ⟨hp, hl⟩ := modifyOp_entry op
  refine silent (Filter.kind_modifyIf _ _ _) ?_ ?_
  · simp [Section.values_eq, Filter.modifyIf, Filter.named, Section.ofFields, hp.symm]
  · simp [Section.values_eq, Filter.modifyIf, Filter.named, Section.ofFields, hl.symm]

theorem mapValues (routing source target : String) (removeSource : Bool)
    (table : List (String × String)) :
    Carries (Filter.mapValues routing source target removeSource table) {} := by
  refine of_forall_empty ?_
  intro s hs
  obtain ⟨⟨old, new⟩, -, rfl⟩ := List.mem_map.mp hs
  have h := modifyIf routing (Filter.keyEquals source old) (.add target new)
  cases removeSource with
  | false => exact h
  | true =>
      refine silent rfl ?_ ?_
      · simp [Section.values_eq, Filter.modifyIf, Filter.named, Section.ofFields,
          Filter.ModifyOp.entry]
      · simp [Section.values_eq, Filter.modifyIf, Filter.named, Section.ofFields,
          Filter.ModifyOp.entry]

theorem nestFields (routing wildcard under head : String) :
    Carries [Filter.nestFields routing wildcard under head] {} := by
  refine silent (Filter.kind_nestFields _ _ _ _) ?_ ?_ <;>
    simp [Section.values_eq, Filter.nestFields, Filter.named, Section.ofFields]

theorem exclude (routing : String) (rules : List (String × String)) :
    Carries [Filter.exclude routing rules] {} := by
  have key : ∀ k, "Exclude" ≠ k →
      (rules.map fun r => ("Exclude", r.1 ++ " " ++ r.2)).filter (·.1 = k) = [] :=
    fun k hk => filter_entries_eq_nil (fun _ => hk) rules
  rw [Filter.exclude]
  split <;> refine silent (by simp [Filter.named]) ?_ ?_ <;>
    simp [Section.values_eq, Filter.named, Section.ofFields, key]

theorem scriptFilter (routing function text : String) :
    Carries (Script.filter routing function text) {} := by
  refine cons (b := {}) (silent (by simp) ?_ ?_) (script text) <;>
    simp [Section.values_eq, Section.ofFields]

/-- A filter that parses uses the names of its parsers. -/
theorem parse (routing key : String) (parsers : List String) (preserveKey : Bool) :
    Carries [Filter.parse routing key parsers preserveKey] { parserUses := parsers } := by
  have hf : (parsers.map fun p => ("Parser", p)).filter (·.1 = "Parser")
      = parsers.map fun p => ("Parser", p) := by
    refine List.filter_eq_self.mpr ?_
    intro e he
    obtain ⟨p, -, rfl⟩ := List.mem_map.mp he
    rfl
  have hn : (parsers.map fun p => ("Parser", p)).filter (·.1 = "multiline.parser") = [] :=
    filter_entries_eq_nil (fun _ => by simp) parsers
  have hp : (Filter.parse routing key parsers preserveKey).values "Parser" = parsers := by
    cases preserveKey <;>
      simp [Section.values_eq, Filter.parse, Filter.named, Section.ofFields, hf, Function.comp_def]
  have hl : (Filter.parse routing key parsers preserveKey).values "multiline.parser" = [] := by
    cases preserveKey <;>
      simp [Section.values_eq, Filter.parse, Filter.named, Section.ofFields, hn]
  have h := filter (Filter.kind_parse routing key parsers preserveKey)
  rw [hp, hl] at h
  exact h

/-- Parsing between two scripts uses the names of its parsers. -/
theorem parseChain (routing : String) (field : Option String) (parsers : List String)
    (preserveKey : Bool) :
    Carries (Filter.parseChain routing field parsers preserveKey) { parserUses := parsers } := by
  have h := (scriptFilter routing "parser_nest" (Script.nest (Filter.parseKey field))).append
    ((parse routing (Filter.parseKey field) parsers preserveKey).cons
      (scriptFilter routing "parser_merge_record" Script.merge))
  rw [Names.append_empty, Names.empty_append] at h
  exact h

/-- A filter that joins lines uses the name of its parser. -/
theorem joinLines (routing name : String) :
    Carries [Filter.joinLines routing name] { lineParserUses := [name] } := by
  have h := filter (Filter.kind_joinLines routing name)
  have hp : (Filter.joinLines routing name).values "Parser" = [] := by
    simp [Section.values_eq, Filter.joinLines, Filter.named, Section.ofFields]
  have hl : (Filter.joinLines routing name).values "multiline.parser" = [name] := by
    simp [Section.values_eq, Filter.joinLines, Filter.named, Section.ofFields]
  rw [hp, hl] at h
  exact h

end Carries

end Telemetry
