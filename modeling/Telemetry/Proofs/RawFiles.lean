import Telemetry.Proofs.LayoutOutcome
import Telemetry.Proofs.SectionOrder

/-!
# Files that a layout copies

A section of the kind `file` asks for a file with the given contents. While the sections are gone
through, such a file is compared with those of its name before it; the two files of sections are
put in at the end, and compared with nothing.

* **`Section.get?_layout_iff`** — which files there are: the two files of sections, and each raw file
  of another name.
* **`Section.keepsFiles_iff`** — so the layout keeps all files exactly if no raw file has the name of
  a file of sections and other contents.
* **`Section.not_keepsFiles`** — a raw file of such a name is replaced without an error.
* **`LogEngine.compile_keepsFiles`** — the sections of a compilation never ask for such a file.
-/

namespace Telemetry

open Failing

namespace Section

variable {vars : Keyed String} {ss : List Section}

/-- The files that sections stand for, in order. -/
def rawFiles (ss : List Section) : List (String × String) :=
  ss.filterMap file?

/-- The files that a layout makes of variables and of all other sections. -/
def generatedFiles (vars : Keyed String) (ss : List Section) : List (String × String) :=
  [(mainFile, Text.join "\n" (variableLines vars ++ (inMain ss).map render)),
    (parserFile, Text.join "\n" ((inParsers ss).map render))]

/-- **A layout keeps all files:** if it succeeds, each raw file is there with exactly its contents;
and if two files, raw or generated, have one name and different contents, it fails. -/
structure KeepsFiles (vars : Keyed String) (ss : List Section) : Prop where
  copied : ∀ files, layout vars ss = .ok files →
    ∀ name contents, (name, contents) ∈ rawFiles ss → files.get? name = some contents
  refused : ∀ name contents contents', (name, contents) ∈ rawFiles ss ++ generatedFiles vars ss →
    (name, contents') ∈ rawFiles ss ++ generatedFiles vars ss → contents ≠ contents' →
      ∃ e, layout vars ss = .error e

/-- Where the files of sections agree, raw files of one name have the same contents. -/
theorem FilesAgree.eq_of_mem_rawFiles (h : FilesAgree ss) {name contents contents' : String}
    (hc : (name, contents) ∈ rawFiles ss) (hc' : (name, contents') ∈ rawFiles ss) :
    contents = contents' := by
  obtain ⟨s, hs, hf⟩ := List.mem_filterMap.mp hc
  obtain ⟨s', hs', hf'⟩ := List.mem_filterMap.mp hc'
  exact h s hs s' hs' name contents contents' hf hf'

/-- The generated files are the main file and the parser file. -/
theorem exists_mem_generatedFiles_iff {name : String} :
    (∃ contents, (name, contents) ∈ generatedFiles vars ss) ↔
      name = mainFile ∨ name = parserFile := by
  simp [generatedFiles, exists_or]

/-- **The files of a layout that succeeds:** the two generated ones, and each raw file of another
name. -/
theorem get?_layout_iff {files : Files} (h : layout vars ss = .ok files) (name contents : String) :
    files.get? name = some contents ↔ (name, contents) ∈ generatedFiles vars ss ∨
      (name ≠ mainFile ∧ name ≠ parserFile) ∧ (name, contents) ∈ rawFiles ss := by
  by_cases hname : name = mainFile ∨ name = parserFile
  · obtain ⟨others, -, rfl⟩ := LogEngine.layout_eq_ok h
    rw [← inMain_eq, ← inParsers_eq, Keyed.get?_insert, Keyed.get?_insert]
    rcases hname with rfl | rfl
    · rw [if_neg (by decide), if_pos rfl]
      simp [generatedFiles, show mainFile ≠ parserFile by decide, eq_comm]
    · rw [if_pos rfl]
      simp [generatedFiles, show parserFile ≠ mainFile by decide, eq_comm]
  · obtain ⟨hmain, hparser⟩ := not_or.mp hname
    rw [LogEngine.get?_layout_of_ne h hmain hparser]
    simp [generatedFiles, rawFiles, hmain, hparser]

/-- Where raw files are copied, no two files of one name contradict each other. -/
theorem KeepsFiles.of_copied (h : ∀ files, layout vars ss = .ok files →
    ∀ name contents, (name, contents) ∈ rawFiles ss → files.get? name = some contents) :
    KeepsFiles vars ss := by
  refine ⟨h, ?_⟩
  intro name contents contents' hc hc' hne
  cases hlayout : layout vars ss with
  | error e => exact ⟨e, rfl⟩
  | ok files =>
      have hget : ∀ t, (name, t) ∈ rawFiles ss ++ generatedFiles vars ss →
          files.get? name = some t := by
        intro t ht
        rcases List.mem_append.mp ht with ht | ht
        · exact h files hlayout name t ht
        · exact (get?_layout_iff hlayout name t).mpr (.inl ht)
      exact absurd (Option.some.inj ((hget _ hc).symm.trans (hget _ hc'))) hne

/-- A raw file is copied if it agrees with the generated file of its name. -/
theorem get?_layout_of_mem_rawFiles {files : Files} (h : layout vars ss = .ok files)
    {name contents : String} (hraw : (name, contents) ∈ rawFiles ss)
    (hagree : ∀ contents', (name, contents') ∈ generatedFiles vars ss → contents = contents') :
    files.get? name = some contents := by
  refine (get?_layout_iff h name contents).mpr ?_
  by_cases hname : name = mainFile ∨ name = parserFile
  · obtain ⟨contents', hgen⟩ := exists_mem_generatedFiles_iff.mpr hname
    exact .inl (hagree contents' hgen ▸ hgen)
  · exact .inr ⟨not_or.mp hname, hraw⟩

/-- **What a layout keeps.** For any variables and sections:

* The layout keeps all files if and only if, where it succeeds, no raw file has the name of a
  generated file and other contents.
* The files of a layout that succeeds are the generated ones, and each raw file of another name with
  exactly its contents.
* Two raw files of one name with different contents are an error, which names the first that
  contradicts one before it. -/
theorem keepsFiles_iff (vars : Keyed String) (ss : List Section) :
    (KeepsFiles vars ss ↔ ∀ files, layout vars ss = .ok files → ∀ name contents contents',
      (name, contents) ∈ rawFiles ss → (name, contents') ∈ generatedFiles vars ss →
        contents = contents') ∧
    (∀ files, layout vars ss = .ok files → ∀ name contents, files.get? name = some contents ↔
      (name, contents) ∈ generatedFiles vars ss ∨
        (name ≠ mainFile ∧ name ≠ parserFile) ∧ (name, contents) ∈ rawFiles ss) ∧
    ∀ name contents contents', (name, contents) ∈ rawFiles ss → (name, contents') ∈ rawFiles ss →
      contents ≠ contents' → ∃ first, FirstContradiction ss first ∧
        layout vars ss = .error (.conflictingOutputFile first) := by
  refine ⟨⟨?_, ?_⟩, fun files h => get?_layout_iff h, ?_⟩
  · intro hkeeps files h name contents contents' hraw hgen
    have hcopied := hkeeps.copied files h name contents hraw
    have hreplaced := (get?_layout_iff h name contents').mpr (.inl hgen)
    exact Option.some.inj (hcopied.symm.trans hreplaced)
  · intro hspared
    refine .of_copied ?_
    intro files h name contents hraw
    exact get?_layout_of_mem_rawFiles h hraw fun contents' hgen =>
      hspared files h name contents contents' hraw hgen
  · intro name contents contents' hc hc' hne
    have hdisagree : ¬ FilesAgree ss := fun hagree => hne (hagree.eq_of_mem_rawFiles hc hc')
    obtain ⟨first, hfirst⟩ := not_not.mp fun hnone => hdisagree (filesAgree_iff.mpr hnone)
    exact ⟨first, hfirst, layout_contradiction_iff.mpr hfirst⟩

/-- A script that comes twice, and a file with the name and the contents of the main file. -/
def agreeingFiles : List Section :=
  [ofFile "x.lua" "return 1\n", ofFile mainFile "", ofFile "x.lua" "return 1\n"]

theorem keepsFiles_iff_agreeingFiles : KeepsFiles .empty agreeingFiles ∧
    ∃ files, layout .empty agreeingFiles = .ok files ∧
      files.get? "x.lua" = some "return 1\n" ∧ files.get? mainFile = some "" := by
  obtain ⟨files, h⟩ : ∃ files, layout .empty agreeingFiles = .ok files :=
    exists_of_isOk rfl
  obtain ⟨hiff, hget, -⟩ := keepsFiles_iff .empty agreeingFiles
  have hkeeps : KeepsFiles .empty agreeingFiles := by
    refine hiff.mpr fun _ _ name contents contents' hraw hgen => ?_
    have hall : ∀ f ∈ rawFiles agreeingFiles, ∀ g ∈ generatedFiles .empty agreeingFiles,
        f.1 = g.1 → f.2 = g.2 := by decide
    exact hall _ hraw _ hgen rfl
  exact ⟨hkeeps, files, h, (hget files h _ _).mpr (by decide),
    hkeeps.copied files h _ _ (by decide)⟩

/-- **A raw file with the name of the main file is replaced,** and nothing says so. -/
theorem not_keepsFiles : ¬ KeepsFiles .empty [ofFile "fluent_bit_main.conf" "x"] ∧
    ∃ files, layout .empty [ofFile "fluent_bit_main.conf" "x"] = .ok files ∧
      files.get? "fluent_bit_main.conf" = some "" := by
  obtain ⟨files, h⟩ : ∃ files, layout .empty [ofFile "fluent_bit_main.conf" "x"] = .ok files :=
    exists_of_isOk rfl
  have hmain : files.get? "fluent_bit_main.conf" = some "" :=
    (get?_layout_iff h _ _).mpr (by decide)
  refine ⟨?_, files, h, hmain⟩
  intro hkeeps
  have hcopied := hkeeps.copied files h "fluent_bit_main.conf" "x" (by decide)
  exact absurd (hmain.symm.trans hcopied) (by decide)

end Section

namespace LogEngine

/-- **A compilation keeps all files.** Its raw files are scripts, and no script has the name of a
file of sections. -/
theorem compile_keepsFiles {c : Config} {p : Platform} {o : CompileOptions} {files : Files}
    (h : compile c p o = .ok files) :
    ∃ ss, emittedSections c p o = .ok ss ∧
      Section.layout (mainVariables p.buffersDir p.logsDir) ss = .ok files ∧
      Section.KeepsFiles (mainVariables p.buffersDir p.logsDir) ss := by
  obtain ⟨is, own, ss, -, hparts, hemitted, hlayout, -, -⟩ := parts_of_compile h
  refine ⟨collected ss, hemitted, hlayout, .of_copied ?_⟩
  intro files' h' name contents hraw
  refine Section.get?_layout_of_mem_rawFiles h' hraw ?_
  intro contents' hgen
  rw [Section.rawFiles, hparts.filterMap_file?] at hraw
  obtain ⟨hmain, hparser⟩ := hparts.file_name_ne hraw
  exact absurd (Section.exists_mem_generatedFiles_iff.mp ⟨contents', hgen⟩)
    (not_or.mpr ⟨hmain, hparser⟩)

end LogEngine

end Telemetry
