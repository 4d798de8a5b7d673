import Telemetry.Proofs.Layout

/-!
# What comes of a layout

A layout has three ends, and which of them it has is said here without its pass over the list:

* **`Section.foldlM_addFile_eq_error`** — it fails for the first file that has other contents than
  one of its name before it.
* **`Section.eq_unknownKinds_iff`** — otherwise it fails for all kinds that the log engine does not
  know, in ascending order and each once.
* **`Section.layout_exact`** — both, and otherwise the exact text of the two files of sections.
-/

namespace Telemetry

open Failing

namespace Section

variable {ss : List Section}

/-! ## Files that contradict each other -/

/-- Files of one name have the same contents. -/
def FilesAgree (ss : List Section) : Prop :=
  ∀ s ∈ ss, ∀ s' ∈ ss, ∀ name contents contents', s.file? = some (name, contents) →
    s'.file? = some (name, contents') → contents = contents'

/-- A section stands for a file of the given name, and one of those before it for a file of this
name with other contents. -/
def Contradicts (before : List Section) (s : Section) (name : String) : Prop :=
  ∃ contents, s.file? = some (name, contents) ∧
    ∃ s' ∈ before, ∃ present, s'.file? = some (name, present) ∧ present ≠ contents

/-- The first section that contradicts one before it stands for a file of the given name. -/
def FirstContradiction (ss : List Section) (name : String) : Prop :=
  ∃ before s after, ss = before ++ s :: after ∧ FilesAgree before ∧ Contradicts before s name

/-- A file cannot be added if the table has other contents under its name. -/
theorem addFile_eq_error {files : Files} {s : Section} {e : SectionError} :
    addFile files s = .error e ↔ ∃ name contents present, e = .conflictingOutputFile name ∧
      s.file? = some (name, contents) ∧ files.get? name = some present ∧ present ≠ contents := by
  rw [addFile]
  cases hf : s.file? with
  | none => simp
  | some f =>
      obtain ⟨name, contents⟩ := f
      cases hg : files.get? name with
      | none =>
          refine iff_of_false (by simp [hg]) ?_
          rintro ⟨n, c, present, -, hn, hget, -⟩
          obtain ⟨rfl, -⟩ := Prod.mk.inj (Option.some.inj hn)
          rw [hg] at hget
          cases hget
      | some present =>
          simp only [hg]
          by_cases hsame : present = contents
          · rw [if_pos hsame]
            refine iff_of_false (by simp) ?_
            rintro ⟨n, c, present', -, hn, hget, hne⟩
            obtain ⟨rfl, rfl⟩ := Prod.mk.inj (Option.some.inj hn)
            obtain rfl := Option.some.inj (hg.symm.trans hget)
            exact hne hsame
          · rw [if_neg hsame]
            constructor
            · intro h
              exact ⟨name, contents, present, (Except.error.inj h).symm, rfl, hg, hsame⟩
            · rintro ⟨n, c, present', rfl, hn, -, -⟩
              obtain ⟨rfl, -⟩ := Prod.mk.inj (Option.some.inj hn)
              rfl

/-- With the files of the sections before it in the table, a section cannot be added if it
contradicts one of those. -/
theorem addFile_error_iff {files : Files} (h : ss.foldlM addFile .empty = .ok files) (s : Section)
    (e : SectionError) : addFile files s = .error e ↔
      ∃ name, e = .conflictingOutputFile name ∧ Contradicts ss s name := by
  have hget : ∀ name contents, files.get? name = some contents ↔
      ∃ s ∈ ss, s.file? = some (name, contents) := by
    intro name contents
    rw [get?_foldlM_addFile h]
    exact or_iff_right fun hempty => nomatch hempty
  rw [addFile_eq_error]
  constructor
  · rintro ⟨name, contents, present, he, hf, hpresent, hne⟩
    obtain ⟨s', hs', hf'⟩ := (hget name present).mp hpresent
    exact ⟨name, he, contents, hf, s', hs', present, hf', hne⟩
  · rintro ⟨name, he, contents, hf, s', hs', present, hf', hne⟩
    exact ⟨name, contents, present, he, hf, (hget name present).mpr ⟨s', hs', hf'⟩, hne⟩

/-- **The files of sections can be gathered exactly if they agree.** -/
theorem exists_foldlM_addFile_iff :
    (∃ files, ss.foldlM addFile .empty = .ok files) ↔ FilesAgree ss := by
  constructor
  · rintro ⟨files, h⟩ s hs s' hs' name contents contents' hf hf'
    -- both contents are looked up under the one name
    have hfirst := (get?_foldlM_addFile h name contents).mpr (.inr ⟨s, hs, hf⟩)
    have hsecond := (get?_foldlM_addFile h name contents').mpr (.inr ⟨s', hs', hf'⟩)
    exact Option.some.inj (hfirst.symm.trans hsecond)
  · intro hagree
    cases h : ss.foldlM addFile .empty with
    | ok files => exact ⟨files, rfl⟩
    | error e =>
        obtain ⟨before, s, after, files, rfl, hbefore, he⟩ := foldlM_eq_error.mp h
        obtain ⟨name, -, contents, hf, s', hs', present, hf', hne⟩ :=
          (addFile_error_iff hbefore s e).mp he
        exact absurd (hagree s' (List.mem_append_left _ hs') s (by simp) name present contents hf' hf)
          hne

/-- **Gathering the files fails for the first that contradicts one before it.** -/
theorem foldlM_addFile_eq_error {e : SectionError} :
    ss.foldlM addFile .empty = .error e ↔
      ∃ name, e = .conflictingOutputFile name ∧ FirstContradiction ss name := by
  rw [foldlM_eq_error]
  constructor
  · rintro ⟨before, s, after, files, hss, hbefore, he⟩
    obtain ⟨name, rfl, hs⟩ := (addFile_error_iff hbefore s e).mp he
    exact ⟨name, rfl, before, s, after, hss, exists_foldlM_addFile_iff.mp ⟨files, hbefore⟩, hs⟩
  · rintro ⟨name, rfl, before, s, after, hss, hagree, hs⟩
    obtain ⟨files, hbefore⟩ := exists_foldlM_addFile_iff.mpr hagree
    exact ⟨before, s, after, files, hss, hbefore,
      (addFile_error_iff hbefore s _).mpr ⟨name, rfl, hs⟩⟩

/-- Files agree unless one of them is the first that does not. -/
theorem filesAgree_iff : FilesAgree ss ↔ ¬ ∃ name, FirstContradiction ss name := by
  rw [← exists_foldlM_addFile_iff]
  cases h : ss.foldlM addFile .empty with
  | ok files =>
      refine iff_of_true ⟨files, rfl⟩ ?_
      rintro ⟨name, hfirst⟩
      have herror := foldlM_addFile_eq_error.mpr ⟨name, rfl, hfirst⟩
      rw [h] at herror
      exact nomatch herror
  | error e =>
      refine iff_of_false (by simp) (not_not.mpr ?_)
      obtain ⟨name, -, hfirst⟩ := foldlM_addFile_eq_error.mp h
      exact ⟨name, hfirst⟩

/-! ## Kinds that are not known -/

/-- The unknown kinds are the kinds of some section. -/
theorem mem_unknownKinds {kind : String} :
    kind ∈ unknownKinds ss ↔ ∃ s ∈ ss, s.kind = .other kind := by
  rw [unknownKinds, Keyed.mem_keys_ofList]
  simp [unknownKind?_eq_some]

/-- **The list of unknown kinds** is the one in ascending order that has them all. -/
theorem eq_unknownKinds_iff {kinds : List String} :
    kinds = unknownKinds ss ↔
      kinds.Pairwise (· < ·) ∧ ∀ kind, kind ∈ kinds ↔ ∃ s ∈ ss, s.kind = .other kind := by
  have hordered : (unknownKinds ss).Pairwise (· < ·) := Keyed.keys_ascending _
  constructor
  · rintro rfl
    exact ⟨hordered, fun _ => mem_unknownKinds⟩
  · rintro ⟨h, hmem⟩
    have hirrefl : ∀ a b : String, a < b → a ≠ b := by
      rintro a _ hlt rfl
      exact String.lt_irrefl _ hlt
    have hperm : kinds.Perm (unknownKinds ss) := by
      refine (List.perm_ext_iff_of_nodup (h.imp (hirrefl _ _)) (hordered.imp (hirrefl _ _))).mpr ?_
      intro kind
      rw [hmem, mem_unknownKinds]
    refine hperm.eq_of_pairwise ?_ h hordered
    intro a b _ _ hab hba
    exact absurd (String.lt_trans hab hba) (String.lt_irrefl _)

/-- There is no such kind exactly if all kinds are known. -/
theorem unknownKinds_eq_nil_iff :
    unknownKinds ss = [] ↔ ∀ s ∈ ss, ∀ kind, s.kind ≠ .other kind := by
  rw [List.eq_nil_iff_forall_not_mem]
  simp only [mem_unknownKinds, not_exists, not_and]
  exact ⟨fun h s hs kind => h kind s hs, fun h kind s hs => h s hs kind⟩

/-! ## The three ends -/

variable {vars : Keyed String}

/-- The first end: a file contradicts one before it. -/
theorem layout_contradiction_iff {name : String} :
    layout vars ss = .error (.conflictingOutputFile name) ↔ FirstContradiction ss name := by
  rw [layout_eq, bind_eq_error, foldlM_addFile_eq_error]
  constructor
  · rintro (⟨name', he, hfirst⟩ | ⟨files, -, h⟩)
    · obtain rfl := SectionError.conflictingOutputFile.inj he
      exact hfirst
    · split at h <;> cases h
  · intro hfirst
    exact .inl ⟨name, rfl, hfirst⟩

/-- The second end: no file does, but there are unknown kinds. -/
theorem layout_unknown_iff {kinds : List String} :
    layout vars ss = .error (.unknownSections kinds) ↔
      FilesAgree ss ∧ kinds ≠ [] ∧ kinds = unknownKinds ss := by
  rw [layout_eq, bind_eq_error, foldlM_addFile_eq_error, ← exists_foldlM_addFile_iff]
  constructor
  · rintro (⟨name, he, -⟩ | ⟨files, hfiles, h⟩)
    · exact nomatch he
    · split at h
      · exact nomatch h
      · rename_i hne
        obtain rfl := SectionError.unknownSections.inj (Except.error.inj h)
        exact ⟨⟨files, hfiles⟩, hne, rfl⟩
  · rintro ⟨⟨files, hfiles⟩, hne, rfl⟩
    exact .inr ⟨files, hfiles, if_neg hne⟩

/-- The third end: there is neither. -/
theorem exists_layout_iff :
    (∃ files, layout vars ss = .ok files) ↔ FilesAgree ss ∧ unknownKinds ss = [] := by
  rw [← exists_foldlM_addFile_iff, layout_eq]
  constructor
  · rintro ⟨files, h⟩
    obtain ⟨others, hothers, h⟩ := bind_eq_ok.mp h
    split at h
    · rename_i hnone
      exact ⟨⟨others, hothers⟩, hnone⟩
    · exact nomatch h
  · rintro ⟨⟨others, hothers⟩, hnone⟩
    exact ⟨_, bind_eq_ok.mpr ⟨others, hothers, if_pos hnone⟩⟩

/-! ## The texts -/

/-- Variables are set line by line, with an empty line behind them if there are any. -/
theorem variableLines_eq (vars : Keyed String) :
    variableLines vars = (vars.entries.map fun v => "@SET " ++ v.1 ++ "=" ++ v.2)
      ++ if vars.entries = [] then [] else [""] := by
  rw [variableLines, Keyed.isEmpty]
  cases vars.entries <;> simp

theorem render_ends (s : Section) : ∃ text, s.render = text ++ "\n" :=
  ⟨_, rfl⟩

/-- The sections of the main file, kind by kind and otherwise in the order of the list. -/
def inMain (ss : List Section) : List Section :=
  ss.filter (·.kind = .service) ++ ss.filter (·.kind = .input) ++ ss.filter (·.kind = .filter)
    ++ ss.filter (·.kind = .output)

/-- The sections of the parser file, kind by kind and otherwise in the order of the list. -/
def inParsers (ss : List Section) : List Section :=
  ss.filter (·.kind = .parser) ++ ss.filter (·.kind = .multilineParser)

theorem inMain_eq (ss : List Section) : inMain ss = LogEngine.grouped mainKinds ss := by
  simp [inMain, LogEngine.grouped, mainKinds]

theorem inParsers_eq (ss : List Section) : inParsers ss = LogEngine.grouped parserKinds ss := by
  simp [inParsers, LogEngine.grouped, parserKinds]

/-- Where all kinds are known, each section that does not stand for a file is in one of the two
files, once. -/
theorem written_perm (h : ∀ s ∈ ss, ∀ kind, s.kind ≠ .other kind) :
    (inMain ss ++ inParsers ss).Perm (ss.filter (·.kind ≠ .file)) := by
  rw [inMain_eq, inParsers_eq, ← LogEngine.grouped_append]
  have hkinds : ss.filter (·.kind ∈ mainKinds ++ parserKinds) = ss.filter (·.kind ≠ .file) := by
    refine List.filter_congr fun s hs => ?_
    have hknown := h s hs
    cases hk : s.kind with
    | other kind => exact absurd hk (hknown kind)
    | _ => rfl
  rw [← hkinds]
  exact LogEngine.grouped_perm (by decide) ss

/-- **What comes of a layout.** It fails for the first file that contradicts one before it;
otherwise for all unknown kinds, in ascending order and each once, if there are any; and otherwise
it succeeds. Then the main file has the lines that set variables, in the order of their names and
with an empty line behind them if there are any, and the sections of its kinds; the parser file has
the sections of its kinds. Each section of these kinds is written once, kind by kind and otherwise
in the order of the list, and ends its line. -/
theorem layout_exact (vars : Keyed String) (ss : List Section) :
    (∀ name, layout vars ss = .error (.conflictingOutputFile name) ↔ FirstContradiction ss name) ∧
    (∀ kinds, layout vars ss = .error (.unknownSections kinds) ↔ FilesAgree ss ∧ kinds ≠ [] ∧
      kinds.Pairwise (· < ·) ∧ ∀ kind, kind ∈ kinds ↔ ∃ s ∈ ss, s.kind = .other kind) ∧
    ((∃ files, layout vars ss = .ok files) ↔
      FilesAgree ss ∧ ∀ s ∈ ss, ∀ kind, s.kind ≠ .other kind) ∧
    (FilesAgree ss ↔ ¬ ∃ name, FirstContradiction ss name) ∧
    ∀ files, layout vars ss = .ok files →
      files.get? mainFile = some (Text.join "\n" ((vars.entries.map fun v =>
        "@SET " ++ v.1 ++ "=" ++ v.2) ++ (if vars.entries = [] then [] else [""])
          ++ (inMain ss).map render)) ∧
      files.get? parserFile = some (Text.join "\n" ((inParsers ss).map render)) ∧
      vars.keys.Pairwise (· < ·) ∧
      (inMain ss ++ inParsers ss).Perm (ss.filter (·.kind ≠ .file)) ∧
      ∀ s ∈ ss, ∃ text, s.render = text ++ "\n" := by
  refine ⟨fun _ => layout_contradiction_iff, ?unknown, ?success, filesAgree_iff, ?texts⟩
  case unknown =>
    intro kinds
    rw [layout_unknown_iff, eq_unknownKinds_iff]
  case success => rw [exists_layout_iff, unknownKinds_eq_nil_iff]
  case texts =>
    intro files h
    have hknown := unknownKinds_eq_nil_iff.mp (exists_layout_iff.mp ⟨files, h⟩).2
    obtain ⟨others, -, rfl⟩ := LogEngine.layout_eq_ok h
    rw [Keyed.get?_insert, Keyed.get?_insert, if_neg (by decide), if_pos rfl, Keyed.get?_insert,
      if_pos rfl, ← inMain_eq, ← inParsers_eq, variableLines_eq]
    exact ⟨rfl, rfl, vars.keys_ascending, written_perm hknown, fun s _ => s.render_ends⟩

/-- Two variables against the order of their names. -/
def sampleVariables : Keyed String :=
  .ofList [("z_dir", "/z"), ("a_dir", "/a")]

/-- Sections of all kinds against the order of kinds, two of one kind, one without lines, and a file
that comes twice. -/
def mixedSections : List Section := [
  ofFields .output [("Name", "stackdriver")],
  ofFields .multilineParser [("name", "m")],
  ofFields .input [("Tag", "b.b")],
  ofFile "x.lua" "return 1\n",
  new .service,
  ofFields .input [("Tag", "a.a")],
  ofFile "x.lua" "return 1\n",
  ofFields .filter [("Name", "modify")],
  ofFields .parser [("Name", "p")]]

/-- The files for `mixedSections`. -/
theorem layout_exact_mixedSections :
    ∃ files, layout sampleVariables mixedSections = .ok files ∧
      files.get? mainFile = some ("@SET a_dir=/a\n@SET z_dir=/z\n\n[SERVICE]\n\n\n"
        ++ "[INPUT]\n    Tag b.b\n\n[INPUT]\n    Tag a.a\n\n"
        ++ "[FILTER]\n    Name modify\n\n[OUTPUT]\n    Name stackdriver\n") ∧
      files.get? parserFile
        = some "[PARSER]\n    Name p\n\n[MULTILINE_PARSER]\n    name m\n" := by
  obtain ⟨files, h⟩ : ∃ files, layout sampleVariables mixedSections = .ok files :=
    exists_of_isOk rfl
  obtain ⟨-, -, -, -, htexts⟩ := layout_exact sampleVariables mixedSections
  obtain ⟨hmain, hparsers, -⟩ := htexts files h
  refine ⟨files, h, ?_, ?_⟩
  · rw [hmain]
    rfl
  · rw [hparsers]
    rfl

end Section

end Telemetry
