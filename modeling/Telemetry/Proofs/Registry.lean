import Telemetry.Proofs.Gathered
import Telemetry.Proofs.Instance
import Telemetry.Section.Layout

/-!
# Collecting parsers and writing files

The last two stages of a compilation are the only ones that can find fault with sections that the
program itself has built. For regular sections it is known exactly when they do:

* **`registerAll_eq_ok`**, **`registerAll_eq_error`** — parsers are taken exactly if their names are
  new, pairwise distinct, not empty and not reserved.
* **`collectParsers_eq_ok`**, **`collectParsers_cases`** — where the names are proper, the only fault
  is that one comes twice.
* **`layout_ok`** — where the content hash tells the scripts apart, regular sections can always be
  written.
-/

namespace Telemetry

open Failing
open Section (valuesIn)

/-! ## Taking parsers -/

namespace ParserRegistry

/-- Entering a name that is in use says so and changes nothing. -/
theorem enter_of_mem {r : ParserRegistry} {name : String} (h : name ∈ r.names) :
    r.enter name = (false, r) := by
  rw [enter, contains, if_pos (List.contains_iff_mem.mpr h)]

/-- Entering a new name keeps it. -/
theorem enter_of_not_mem {r : ParserRegistry} {name : String} (h : name ∉ r.names) :
    r.enter name = (true, ⟨r.users, name :: r.names⟩) := by
  rw [enter, contains, if_neg (mt List.contains_iff_mem.mp h)]

/-- **All that can come of an offer:** the name is empty, or it is reserved or in use, or the parser
is taken and its name with it. -/
theorem offer_cases (r : ParserRegistry) (s : Section) :
    (nameOf s = "" ∧ r.offer s = (.error .emptyParserName, r)) ∨
    (nameOf s ≠ "" ∧ (isReserved (nameOf s) = true ∨ nameOf s ∈ r.names) ∧
      r.offer s = (.error (.parserCollision (nameOf s)), r)) ∨
    ((nameOf s ≠ "" ∧ isReserved (nameOf s) = false ∧ nameOf s ∉ r.names) ∧
      r.offer s = (.ok (), ⟨r.users ++ [s], nameOf s :: r.names⟩)) := by
  by_cases hempty : nameOf s = ""
  · refine .inl ⟨hempty, ?_⟩
    simp only [offer, if_pos hempty]
  · refine .inr ?_
    cases hreserved : isReserved (nameOf s) with
    | true =>
        refine .inl ⟨hempty, .inl rfl, ?_⟩
        simp only [offer, if_neg hempty, hreserved, if_true]
    | false =>
        by_cases hused : nameOf s ∈ r.names
        · refine .inl ⟨hempty, .inr hused, ?_⟩
          simp only [offer, if_neg hempty, hreserved, enter_of_mem hused, Bool.false_eq_true,
            if_false]
        · refine .inr ⟨⟨hempty, rfl, hused⟩, ?_⟩
          simp only [offer, if_neg hempty, hreserved, enter_of_not_mem hused, Bool.false_eq_true,
            if_false]

/-- A parser is taken if its name is new, not empty and not reserved. -/
theorem register_eq_ok {r r' : ParserRegistry} {s : Section} :
    r.register s = .ok r' ↔
      (nameOf s ≠ "" ∧ isReserved (nameOf s) = false ∧ nameOf s ∉ r.names) ∧
        r' = ⟨r.users ++ [s], nameOf s :: r.names⟩ := by
  rw [register]
  obtain ⟨hempty, ho⟩ | ⟨hne, hbad, ho⟩ | ⟨hproper, ho⟩ := offer_cases r s <;> rw [ho]
  · constructor
    · intro h
      exact nomatch h
    · rintro ⟨⟨hne, -⟩, -⟩
      exact absurd hempty hne
  · constructor
    · intro h
      exact nomatch h
    rintro ⟨⟨-, hreserved, hnew⟩, -⟩
    rcases hbad with hbad | hused
    · rw [hbad] at hreserved
      exact Bool.noConfusion hreserved
    · exact absurd hused hnew
  · exact ⟨fun h => ⟨hproper, (Except.ok.inj h).symm⟩, fun h => congrArg Except.ok h.2.symm⟩

/-- A parser is not taken because its name is empty, or for its name. -/
theorem register_eq_error {r : ParserRegistry} {s : Section} {e : SectionError}
    (h : r.register s = .error e) :
    (nameOf s = "" ∧ e = .emptyParserName) ∨ e = .parserCollision (nameOf s) := by
  rw [register] at h
  obtain ⟨hempty, ho⟩ | ⟨-, -, ho⟩ | ⟨-, ho⟩ := offer_cases r s <;> rw [ho] at h
  · exact .inl ⟨hempty, (Except.error.inj h).symm⟩
  · exact .inr (Except.error.inj h).symm
  · exact nomatch h

/-- **Parsers are taken one after the other** exactly if their names are proper, new and pairwise
distinct. The induction is on the parsers, with the registry growing. -/
theorem registerAll_eq_ok {ps : List Section} {r r' : ParserRegistry} :
    registerAll ps r = .ok r' ↔
      (∀ n ∈ ps.map nameOf, n ≠ "" ∧ isReserved n = false ∧ n ∉ r.names) ∧
        (ps.map nameOf).Nodup ∧ r' = ⟨r.users ++ ps, (ps.map nameOf).reverse ++ r.names⟩ := by
  induction ps generalizing r with
  | nil =>
      constructor
      · intro h
        have hr : r = r' := Except.ok.inj h
        refine ⟨by simp, List.nodup_nil, ?_⟩
        rw [List.append_nil, ← hr]
        rfl
      · rintro ⟨-, -, rfl⟩
        rw [List.append_nil]
        rfl
  | cons s ps ih =>
      show (r.register s >>= registerAll ps) = .ok r' ↔ _
      have hnames : ((s :: ps).map nameOf).reverse ++ r.names
          = (ps.map nameOf).reverse ++ nameOf s :: r.names := by simp
      rw [bind_eq_ok, hnames]
      constructor
      · rintro ⟨r₁, h1, h⟩
        obtain ⟨hs, rfl⟩ := register_eq_ok.mp h1
        obtain ⟨hps, hnodup, rfl⟩ := ih.mp h
        refine ⟨List.forall_mem_cons.mpr ⟨hs, ?_⟩, List.nodup_cons.mpr ⟨?_, hnodup⟩, ?_⟩
        · intro n hn
          obtain ⟨hne, hres, hnew⟩ := hps n hn
          exact ⟨hne, hres, fun hm => hnew (List.mem_cons_of_mem _ hm)⟩
        · intro hm
          exact (hps _ hm).2.2 List.mem_cons_self
        · rw [List.append_assoc]
          rfl
      · rintro ⟨hall, hnodup, rfl⟩
        obtain ⟨hs, hps⟩ := List.forall_mem_cons.mp hall
        obtain ⟨hnot, hnodup⟩ := List.nodup_cons.mp hnodup
        refine ⟨⟨r.users ++ [s], nameOf s :: r.names⟩, register_eq_ok.mpr ⟨hs, rfl⟩,
          ih.mpr ⟨?_, hnodup, ?_⟩⟩
        · intro n hn
          obtain ⟨hne, hres, hnew⟩ := hps n hn
          refine ⟨hne, hres, ?_⟩
          intro hm
          rcases List.mem_cons.mp hm with hm | hm
          · rw [hm] at hn
            exact hnot hn
          · exact hnew hm
        · rw [List.append_assoc]
          rfl

/-- **Why parsers are not taken:** the name of one is empty, or the name of one collides. -/
theorem registerAll_eq_error {ps : List Section} {r : ParserRegistry} {e : SectionError}
    (h : registerAll ps r = .error e) :
    ("" ∈ ps.map nameOf ∧ e = .emptyParserName) ∨ ∃ n ∈ ps.map nameOf, e = .parserCollision n := by
  induction ps generalizing r with
  | nil => exact nomatch h
  | cons s ps ih =>
      have h' : (r.register s >>= registerAll ps) = .error e := h
      rcases bind_eq_error.mp h' with h' | ⟨r', -, h'⟩
      · rcases register_eq_error h' with ⟨hn, he⟩ | he
        · exact .inl ⟨List.mem_cons.mpr (.inl hn.symm), he⟩
        · exact .inr ⟨nameOf s, List.mem_cons_self, he⟩
      · rcases ih h' with ⟨hn, he⟩ | ⟨n, hn, he⟩
        · exact .inl ⟨List.mem_cons_of_mem _ hn, he⟩
        · exact .inr ⟨n, List.mem_cons_of_mem _ hn, he⟩

end ParserRegistry

/-! ## Collecting the parsers of a list -/

/-- The built-in parsers bear reserved names. -/
theorem ParserDef.isReserved_of_mem_builtinNames :
    ∀ n ∈ ParserDef.builtinNames, isReserved n = true := by
  decide

/-- No two built-in parsers share a name. -/
theorem ParserDef.builtinNames_nodup : ParserDef.builtinNames.Nodup := by
  decide

/-- The registry sees the names that the lines of the sections say. -/
theorem map_nameOf_eq {ss : List Section}
    (h : ∀ s ∈ ss, s.kind = .parser → s.values "Name" = [ParserRegistry.nameOf s]) :
    (ss.filter (·.isParser)).map ParserRegistry.nameOf = (namesIn ss).parsers := by
  induction ss with
  | nil => rfl
  | cons s ss ih =>
      obtain ⟨hs, hss⟩ := List.forall_mem_cons.mp h
      have hc : (namesIn (s :: ss)).parsers
          = (if s.kind = .parser then s.values "Name" else []) ++ (namesIn ss).parsers := by
        simp [namesIn, Section.valuesIn_cons]
      rw [hc, ← ih hss]
      by_cases hk : s.kind = .parser
      · rw [List.filter_cons_of_pos (by simpa [Section.isParser] using hk), if_pos hk, hs hk]
        rfl
      · rw [List.filter_cons_of_neg (by simpa [Section.isParser] using hk), if_neg hk]
        rfl

/-- Sections with their parsers behind the others and the built-in parsers in front of those. -/
def collected (ss : List Section) : List Section :=
  ss.filter (fun s => !s.isParser) ++ (ParserDef.builtins.map ParserDef.toSection
    ++ ss.filter (·.isParser))

/-- Collecting loses no section. -/
theorem mem_collected_of_mem {s : Section} {ss : List Section} (h : s ∈ ss) : s ∈ collected ss := by
  cases hp : s.isParser with
  | true => exact List.mem_append_right _ (List.mem_append_right _ (List.mem_filter.mpr ⟨h, hp⟩))
  | false => exact List.mem_append_left _ (List.mem_filter.mpr ⟨h, by rw [hp]; rfl⟩)

/-- What is in the list after collecting was there before, or is a built-in parser. -/
theorem mem_collected {s : Section} {ss : List Section} (h : s ∈ collected ss) :
    s ∈ ss ∨ ∃ d ∈ ParserDef.builtins, s = d.toSection := by
  rcases List.mem_append.mp h with h | h
  · exact .inl (List.mem_filter.mp h).1
  · rcases List.mem_append.mp h with h | h
    · obtain ⟨d, hd, rfl⟩ := List.mem_map.mp h
      exact .inr ⟨d, hd, rfl⟩
    · exact .inl (List.mem_filter.mp h).1

/-- **Collecting succeeds exactly if names are proper and none comes twice.** -/
theorem collectParsers_eq_ok {ss ss' : List Section}
    (hregular : ∀ s ∈ ss, s.kind = .parser → s.values "Name" = [ParserRegistry.nameOf s]) :
    collectParsers ss = .ok ss' ↔
      (∀ n ∈ (namesIn ss).parsers, n ≠ "" ∧ isReserved n = false) ∧
        (namesIn ss).parsers.Nodup ∧ ss' = collected ss := by
  have hnew : ∀ n, isReserved n = false → n ∉ ParserRegistry.new.names := by
    intro n hn hm
    rw [ParserDef.isReserved_of_mem_builtinNames n hm] at hn
    exact Bool.noConfusion hn
  rw [collectParsers]
  rw [bind_eq_ok]
  simp only [ParserRegistry.registerAll_eq_ok, map_nameOf_eq hregular]
  constructor
  · rintro ⟨r, ⟨hproper, hnodup, rfl⟩, h⟩
    exact ⟨fun n hn => ⟨(hproper n hn).1, (hproper n hn).2.1⟩, hnodup, (Except.ok.inj h).symm⟩
  · rintro ⟨hproper, hnodup, rfl⟩
    refine ⟨_, ⟨?_, hnodup, rfl⟩, rfl⟩
    intro n hn
    exact ⟨(hproper n hn).1, (hproper n hn).2, hnew n (hproper n hn).2⟩

/-- Where names are proper, only one that comes twice stops the collecting. -/
theorem collectParsers_cases {ss : List Section}
    (hregular : ∀ s ∈ ss, s.kind = .parser → s.values "Name" = [ParserRegistry.nameOf s])
    (hproper : ∀ n ∈ (namesIn ss).parsers, n ≠ "" ∧ isReserved n = false) :
    ((namesIn ss).parsers.Nodup ∧ collectParsers ss = .ok (collected ss)) ∨
      (¬ (namesIn ss).parsers.Nodup ∧
        ∃ n ∈ (namesIn ss).parsers, collectParsers ss = .error (.parserCollision n)) := by
  by_cases hnodup : (namesIn ss).parsers.Nodup
  · exact .inl ⟨hnodup, (collectParsers_eq_ok hregular).mpr ⟨hproper, hnodup, rfl⟩⟩
  · refine .inr ⟨hnodup, ?_⟩
    cases h : collectParsers ss with
    | ok ss' => exact absurd ((collectParsers_eq_ok hregular).mp h).2.1 hnodup
    | error e =>
        rcases bind_eq_error.mp h with h | ⟨r, -, h⟩
        · rw [← map_nameOf_eq hregular] at hproper ⊢
          rcases ParserRegistry.registerAll_eq_error h with ⟨hn, -⟩ | ⟨n, hn, rfl⟩
          · exact absurd rfl (hproper "" hn).1
          · exact ⟨n, hn, rfl⟩
        · exact nomatch h

/-- The sections for parsers define their names. -/
theorem Carries.parserDefs (ds : List ParserDef) :
    Carries (ds.map ParserDef.toSection) { parsers := ds.map (·.name) } := by
  induction ds with
  | nil => exact Carries.nil
  | cons d ds ih => exact (Carries.parserDef d).cons ih

/-- Collecting keeps the sections of other kinds in their order. -/
theorem filter_collected (ss : List Section) {q : Section → Bool}
    (hq : ∀ s, s.kind = .parser → q s = false) : (collected ss).filter q = ss.filter q := by
  have hbuiltin : (ParserDef.builtins.map ParserDef.toSection).filter q = [] := by
    refine List.filter_eq_nil_iff.mpr ?_
    intro s hs
    obtain ⟨d, -, rfl⟩ := List.mem_map.mp hs
    rw [hq _ (Carries.kind_parserDef d)]
    exact Bool.false_ne_true
  have hparser : (ss.filter (·.isParser)).filter q = [] := by
    refine List.filter_eq_nil_iff.mpr ?_
    intro s hs
    have hk : s.kind = .parser := by simpa [Section.isParser] using (List.mem_filter.mp hs).2
    rw [hq _ hk]
    exact Bool.false_ne_true
  have hother : (ss.filter fun s => !s.isParser).filter q = ss.filter q := by
    rw [List.filter_filter]
    refine List.filter_congr ?_
    intro s _
    by_cases hk : s.kind = .parser
    · rw [hq s hk]
      rfl
    · simp [Section.isParser, hk]
  rw [collected, List.filter_append, List.filter_append, hbuiltin, hparser, hother, List.nil_append,
    List.append_nil]

/-- **Collecting adds the names of the built-in parsers** and changes no others. -/
theorem namesIn_collected (ss : List Section) :
    namesIn (collected ss)
      = { namesIn ss with parsers := ParserDef.builtinNames ++ (namesIn ss).parsers } := by
  have key : ∀ kinds, .parser ∉ kinds → ∀ k,
      valuesIn kinds k (collected ss) = valuesIn kinds k ss := by
    intro kinds hkinds k
    rw [Section.valuesIn_eq_filter, Section.valuesIn_eq_filter, filter_collected]
    intro s hs
    simpa [hs] using hkinds
  have hother : (namesIn (ss.filter fun s => !s.isParser)).parsers = [] := by
    refine Section.valuesIn_eq_nil ?_
    intro s hs
    simpa [Section.isParser] using (List.mem_filter.mp hs).2
  have hparser : (namesIn (ss.filter (·.isParser))).parsers = (namesIn ss).parsers := by
    show valuesIn _ _ _ = valuesIn _ _ _
    rw [Section.valuesIn_eq_filter, Section.valuesIn_eq_filter, List.filter_filter]
    refine congrArg (List.flatMap _) (List.filter_congr ?_)
    intro s _
    simp [Section.isParser]
  ext1
  case parsers =>
    rw [collected, namesIn_append, namesIn_append, Names.append_parsers, Names.append_parsers,
      hother, hparser, (Carries.parserDefs _).names_eq]
    rfl
  all_goals exact key _ (by decide) _

/-! ## Writing files -/

/-- The contents of the files among some sections. -/
def fileContents (ss : List Section) : List String :=
  ss.filterMap fun s => s.file?.map (·.2)

/-- The content hash tells some texts apart. -/
def HashSeparates (texts : List String) : Prop :=
  ∀ a ∈ texts, ∀ b ∈ texts, contentHash a = contentHash b → a = b

/-- A table of files holds nothing but some texts, each under the name made from it. -/
def HoldsScripts (texts : List String) (files : Files) : Prop :=
  ∀ name contents, files.get? name = some contents →
    contents ∈ texts ∧ name = Script.fileName contents

/-- A file that is named by its contents can be added to a table of such files, which then is one
again: what the table has under that name is the same text. -/
theorem addFile_ok {texts : List String} (hash : HashSeparates texts) {files : Files}
    (hfiles : HoldsScripts texts files) {s : Section}
    (hs : ∀ name contents, s.file? = some (name, contents) →
      contents ∈ texts ∧ name = Script.fileName contents) :
    ∃ files', Section.addFile files s = .ok files' ∧ HoldsScripts texts files' := by
  rw [Section.addFile]
  cases hf : s.file? with
  | none => exact ⟨files, rfl, hfiles⟩
  | some f =>
      obtain ⟨name, contents⟩ := f
      obtain ⟨hmem, hname⟩ := hs name contents hf
      cases hg : files.get? name with
      | none =>
          refine ⟨files.insert name contents, by simp only [hg], ?_⟩
          intro name' contents' h
          rw [Keyed.get?_insert] at h
          split at h
          · rename_i he
            obtain rfl := Option.some.inj h
            exact ⟨hmem, he.trans hname⟩
          · exact hfiles name' contents' h
      | some present =>
          obtain ⟨hp, hn⟩ := hfiles name present hg
          have heq : present = contents := by
            refine hash present hp contents hmem ?_
            have he : Script.fileName present = Script.fileName contents := hn.symm.trans hname
            exact String.append_left_inj _ |>.mp he
          exact ⟨files, by simp only [hg, if_pos heq], hfiles⟩

/-- Files named by their contents never get in each other's way. The induction is on the sections,
with the table growing. -/
theorem foldlM_addFile_ok {texts : List String} (hash : HashSeparates texts) {ss : List Section}
    (hfile : ∀ s ∈ ss, ∀ name contents, s.file? = some (name, contents) →
      contents ∈ texts ∧ name = Script.fileName contents) {files : Files}
    (hfiles : HoldsScripts texts files) :
    ∃ files', ss.foldlM Section.addFile files = .ok files' := by
  induction ss generalizing files with
  | nil => exact ⟨files, rfl⟩
  | cons s ss ih =>
      obtain ⟨hs, hss⟩ := List.forall_mem_cons.mp hfile
      obtain ⟨files', hok, hfiles'⟩ := addFile_ok hash hfiles hs
      obtain ⟨files'', hok'⟩ := ih hss hfiles'
      exact ⟨files'', bind_eq_ok.mpr ⟨files', hok, hok'⟩⟩

/-- Sections of known kinds can be written if the files among them can. -/
theorem exists_layout {ss : List Section} (vars : Keyed String) {files : Files}
    (hfiles : ss.foldlM Section.addFile .empty = .ok files)
    (hkind : ∀ s ∈ ss, s.unknownKind? = none) : ∃ files, Section.layout vars ss = .ok files := by
  have hk : Section.unknownKinds ss = [] := by
    have hnil : ss.filterMap Section.unknownKind? = [] := List.filterMap_eq_nil_iff.mpr hkind
    rw [Section.unknownKinds, hnil]
    rfl
  exact ⟨_, (Section.layout_eq vars ss).trans (bind_eq_ok.mpr ⟨files, hfiles, if_pos hk⟩)⟩

/-- **Sections of known kinds can be written** where the content hash tells their files apart. -/
theorem layout_ok {ss : List Section} (vars : Keyed String)
    (hash : HashSeparates (fileContents ss))
    (hfile : ∀ s ∈ ss, ∀ name contents, s.file? = some (name, contents) →
      name = Script.fileName contents)
    (hkind : ∀ s ∈ ss, s.unknownKind? = none) : ∃ files, Section.layout vars ss = .ok files := by
  have hscript : ∀ s ∈ ss, ∀ name contents, s.file? = some (name, contents) →
      contents ∈ fileContents ss ∧ name = Script.fileName contents := by
    intro s hs name contents hf
    exact ⟨List.mem_filterMap.mpr ⟨s, hs, by rw [hf]; rfl⟩, hfile s hs name contents hf⟩
  have hempty : HoldsScripts (fileContents ss) .empty := fun _ _ h => nomatch h
  obtain ⟨files, hfiles⟩ := foldlM_addFile_ok hash hscript hempty
  exact exists_layout vars hfiles hkind

end Telemetry
