import Telemetry.Proofs.Instance

/-!
# Sections under other names

A processor gives the parser that it brings along a name by its position, and refers to it by this
name. Apart from that, its sections do not depend on where it stands.

* **`Section.rename`** — a section with other names of parsers, where it defines or applies them.
* **`map_rename_eq_self`** — sections that have no names to replace stay as they are.
* **`LogProcessor.sections?_rename`** — the sections of a processor at another position are the same
  under other names.
-/

namespace Telemetry

/-! ## Tables with other values -/

namespace Keyed

universe u

variable {α : Type u}

/-- Replaces every value by what a function makes of it and its key. -/
def mapEntries (g : String → α → α) (t : Keyed α) : Keyed α :=
  ⟨t.entries.map fun e => (e.1, g e.1 e.2), by
    rw [List.pairwise_map]
    exact t.ordered⟩

/-- Inserting goes by the key, so that values may be replaced before or after. -/
theorem map_insertEntry (g : String → α → α) (k : String) (v : α) (es : List (String × α)) :
    (insertEntry k v es).map (fun e => (e.1, g e.1 e.2))
      = insertEntry k (g k v) (es.map fun e => (e.1, g e.1 e.2)) := by
  induction es with
  | nil => rfl
  | cons e es ih =>
      rw [List.map_cons, insertEntry, insertEntry]
      split
      · rfl
      · split
        · rfl
        · rw [List.map_cons, ih]

theorem mapEntries_insert (g : String → α → α) (t : Keyed α) (k : String) (v : α) :
    (t.insert k v).mapEntries g = (t.mapEntries g).insert k (g k v) :=
  ext_entries (map_insertEntry g k v t.entries)

end Keyed

/-! ## Renaming in sections -/

/-- The keys under which sections of a kind have names of parsers. -/
def SectionKind.nameKeys : SectionKind → List String
  | parser => ["Name"]
  | multilineParser => ["name"]
  | filter => ["Parser", "multiline.parser"]
  | input => ["Parser", "multiline.parser"]
  | _ => []

/-- The value of a line with another name, if it is a name. -/
def SectionKind.renamed (kind : SectionKind) (f : String → String) (key value : String) : String :=
  if key ∈ kind.nameKeys then f value else value

namespace Section

/-- The section with other names of parsers. -/
def rename (f : String → String) (s : Section) : Section where
  kind := s.kind
  fields := s.fields.mapEntries (s.kind.renamed f)
  entries := s.entries.map fun e => (e.1, s.kind.renamed f e.1 e.2)

variable {f : String → String}

@[simp] theorem kind_rename (s : Section) : (s.rename f).kind = s.kind := rfl

@[simp] theorem rename_new (kind : SectionKind) : (new kind).rename f = new kind := rfl

@[simp] theorem rename_set (s : Section) (key value : String) :
    (s.set key value).rename f = (s.rename f).set key (s.kind.renamed f key value) := by
  rw [rename, set, Keyed.mapEntries_insert]
  rfl

@[simp] theorem rename_setIfSome (s : Section) (key : String) (value : Option String) :
    (s.setIfSome key value).rename f
      = (s.rename f).setIfSome key (value.map (s.kind.renamed f key)) := by
  cases value with
  | none => rfl
  | some v => exact rename_set s key v

@[simp] theorem rename_pushAll (s : Section) (es : List (String × String)) :
    (s.pushAll es).rename f
      = (s.rename f).pushAll (es.map fun e => (e.1, s.kind.renamed f e.1 e.2)) := by
  simp [rename, pushAll]

theorem lines_rename (s : Section) :
    (s.rename f).lines = s.lines.map fun l => (l.1, s.kind.renamed f l.1 l.2) := by
  rw [lines, lines, List.map_append]
  rfl

/-- Values that are no names stay. -/
theorem values_rename {s : Section} {key : String} (h : key ∉ s.kind.nameKeys) :
    (s.rename f).values key = s.values key := by
  rw [values, values, lines_rename, List.filter_map, List.map_map]
  refine List.map_congr_left ?_
  intro l hl
  have hkey : l.1 = key := by simpa using (List.mem_filter.mp hl).2
  simp [SectionKind.renamed, hkey, h]

theorem valuesIn_map_rename {kinds : List SectionKind} {key : String}
    (h : ∀ kind ∈ kinds, key ∉ kind.nameKeys) (ss : List Section) :
    valuesIn kinds key (ss.map (rename f)) = valuesIn kinds key ss := by
  induction ss with
  | nil => rfl
  | cons s ss ih =>
      rw [List.map_cons, valuesIn_cons, valuesIn_cons, ih, kind_rename]
      by_cases hk : s.kind ∈ kinds
      · rw [values_rename (h _ hk)]
      · rw [if_neg hk, if_neg hk]

/-- A section whose names stay is the same. -/
theorem rename_eq_self {s : Section}
    (h : ∀ key ∈ s.kind.nameKeys, ∀ n ∈ s.values key, f n = n) : s.rename f = s := by
  have hline : ∀ l ∈ s.lines, (l.1, s.kind.renamed f l.1 l.2) = l := by
    intro l hl
    rw [SectionKind.renamed]
    split
    · rename_i hkey
      have hvalue : l.2 ∈ s.values l.1 :=
        List.mem_map.mpr ⟨l, List.mem_filter.mpr ⟨hl, by simp⟩, rfl⟩
      rw [h l.1 hkey l.2 hvalue]
    · rfl
  have hmap : ∀ ls : List (String × String), ls ⊆ s.lines →
      ls.map (fun l => (l.1, s.kind.renamed f l.1 l.2)) = ls :=
    fun ls hls => (List.map_congr_left fun l hl => hline l (hls hl)).trans (List.map_id ls)
  have hfields : s.fields.mapEntries (s.kind.renamed f) = s.fields :=
    Keyed.ext_entries (hmap _ fun _ hl => List.mem_append_left _ hl)
  have hentries := hmap s.entries fun _ hl => List.mem_append_right _ hl
  rw [rename, hfields, hentries]

end Section

/-- The names of parsers in sections, of both kinds. -/
def Names.parserNames (names : Names) : List String :=
  names.parsers ++ names.lineParsers ++ (names.parserUses ++ names.lineParserUses)

/-- A name of a section is among those of all, wherever its kind has names. -/
theorem mem_parserNames {ss : List Section} {s : Section} (hs : s ∈ ss) {key n : String}
    (hkey : key ∈ s.kind.nameKeys) (hn : n ∈ s.values key) : n ∈ (namesIn ss).parserNames := by
  have hof : ∀ kinds, s.kind ∈ kinds → n ∈ Section.valuesIn kinds key ss := by
    intro kinds hk
    refine List.mem_flatMap.mpr ⟨s, hs, ?_⟩
    rw [if_pos hk]
    exact hn
  have huses : key ∈ ["Parser", "multiline.parser"] → s.kind ∈ [.filter, .input] →
      n ∈ (namesIn ss).parserNames := by
    intro hkey hk
    refine List.mem_append_right _ ?_
    rcases List.mem_pair.mp hkey with rfl | rfl
    · exact List.mem_append_left _ (hof _ hk)
    · exact List.mem_append_right _ (hof _ hk)
  cases hk : s.kind with
  | parser =>
      rw [hk] at hkey
      obtain rfl := List.mem_singleton.mp hkey
      exact List.mem_append_left _ (List.mem_append_left _ (hof [.parser] (by simp [hk])))
  | multilineParser =>
      rw [hk] at hkey
      obtain rfl := List.mem_singleton.mp hkey
      exact List.mem_append_left _ (List.mem_append_right _ (hof [.multilineParser] (by simp [hk])))
  | filter =>
      rw [hk] at hkey
      exact huses hkey (by simp [hk])
  | input =>
      rw [hk] at hkey
      exact huses hkey (by simp [hk])
  | service =>
      rw [hk] at hkey
      exact nomatch hkey
  | output =>
      rw [hk] at hkey
      exact nomatch hkey
  | file =>
      rw [hk] at hkey
      exact nomatch hkey
  | other name =>
      rw [hk] at hkey
      exact nomatch hkey

/-- **Sections whose names stay** are the same. -/
theorem map_rename_eq_self {f : String → String} {ss : List Section} {names : Names}
    (h : Carries ss names) (hf : ∀ n ∈ names.parserNames, f n = n) :
    ss.map (Section.rename f) = ss := by
  refine (List.map_congr_left ?_).trans (List.map_id ss)
  intro s hs
  refine Section.rename_eq_self ?_
  intro key hkey n hn
  exact hf n (h.names_eq ▸ mem_parserNames hs hkey hn)

/-! ## Renaming what processors bring along -/

section

open Section (rename ofFields)

variable {f : String → String}

theorem ParserDef.rename_toSection (d : ParserDef) :
    d.toSection.rename f = { d with name := f d.name }.toSection := by
  obtain ⟨name, format, timeKey, timeFormat, types⟩ := d
  have hname : SectionKind.parser.renamed f "Name" = f := rfl
  have hother : ∀ key, key ≠ "Name" → SectionKind.parser.renamed f key = id := by
    intro key hkey
    funext value
    exact if_neg (by simpa [SectionKind.nameKeys] using hkey)
  cases format <;> cases h : types.isEmpty <;> simp [toSection, h, ofFields, hname, hother]

theorem Filter.rename_lineParser (name : String) (rules : List LineRule) :
    (lineParser name rules).rename f = lineParser (f name) rules := by
  simp [lineParser, ofFields, SectionKind.renamed, SectionKind.nameKeys, Function.comp_def]

theorem Filter.rename_joinLines (routing parser : String) :
    (joinLines routing parser).rename f = joinLines routing (f parser) := by
  simp [joinLines, named, ofFields, SectionKind.renamed, SectionKind.nameKeys]

theorem Filter.rename_parse (routing key : String) (parsers : List String) (preserveKey : Bool) :
    (parse routing key parsers preserveKey).rename f
      = parse routing key (parsers.map f) preserveKey := by
  cases preserveKey <;>
    simp [parse, named, ofFields, SectionKind.renamed, SectionKind.nameKeys, Function.comp_def]

/-- The scripts around a parser have no names. -/
theorem Filter.rename_parseChain (routing : String) (field : Option String)
    (parsers : List String) (preserveKey : Bool) :
    (parseChain routing field parsers preserveKey).map (rename f)
      = parseChain routing field (parsers.map f) preserveKey := by
  have hscript : ∀ function text, (Script.filter routing function text).map (rename f)
      = Script.filter routing function text :=
    fun function text => map_rename_eq_self (Carries.scriptFilter routing function text)
      fun n hn => nomatch hn
  rw [parseChain, List.map_append, List.map_cons, hscript, hscript, rename_parse]
  rfl

/-- A processor that has sections does not stand for others. -/
theorem LogProcessor.expand?_of_sections? {p : LogProcessor} {tag : Tag} {uid : String}
    {ss : List Section} (h : p.sections? tag uid = some ss) : p.expand? = none := by
  cases p with
  | configured config =>
      cases config with
      | app a => exact nomatch h
      | _ => rfl
  | _ => rfl

/-- **The sections of a processor under another name** are the same, with this name in the place of
the other. A built-in parser keeps its name. -/
theorem LogProcessor.sections?_rename {p : LogProcessor} {tag : Tag} {uid uid' : String}
    (hparser : f uid = uid') (hline : f ("multiline." ++ uid) = "multiline." ++ uid')
    (hbuiltin : ∀ name, p = .builtinParser name → f name = name) {ss : List Section}
    (h : p.sections? tag uid = some ss) : p.sections? tag uid' = some (ss.map (rename f)) := by
  -- most processors have no name of their own, and their sections stay
  have hstay : p.sections? tag uid' = p.sections? tag uid →
      (∀ n ∈ (p.names uid).parserNames, f n = n) →
      p.sections? tag uid' = some (ss.map (rename f)) := by
    intro hsame hf
    obtain ⟨ss', hss', hc⟩ := LogProcessor.carries (expand?_of_sections? h) tag uid
    obtain rfl := Option.some.inj (h.symm.trans hss')
    rw [map_rename_eq_self hc hf, hsame, h]
  match p with
  | configured (.parseJson q) =>
      obtain rfl := Option.some.inj h
      rw [ParseJson.sections, List.map_cons, ParserDef.rename_toSection, Filter.rename_parseChain,
        List.map_singleton]
      obtain rfl := hparser
      rfl
  | configured (.parseRegex q) =>
      obtain rfl := Option.some.inj h
      rw [ParseRegex.sections, List.map_cons, ParserDef.rename_toSection, Filter.rename_parseChain,
        List.map_singleton]
      obtain rfl := hparser
      rfl
  | configured (.parseMultiline gs) =>
      obtain rfl := Option.some.inj h
      rw [List.map_cons, List.map_singleton, Filter.rename_lineParser, Filter.rename_joinLines,
        hline]
      rfl
  | configured (.excludeLogs _) => exact hstay rfl fun n hn => nomatch hn
  | configured (.modifyFields _) => exact hstay rfl fun n hn => nomatch hn
  | configured (.app _) => exact nomatch h
  | builtinParser name =>
      refine hstay rfl fun n hn => ?_
      obtain rfl := List.mem_singleton.mp hn
      exact hbuiltin n rfl
  | severity _ _ => exact hstay rfl fun n hn => nomatch hn
  | httpRequest => exact hstay rfl fun n hn => nomatch hn

end

end Telemetry
