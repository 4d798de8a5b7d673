import Mathlib.Data.List.Dedup
import Telemetry.Proofs.Run

/-!
# Where sections are written

Writing comes to a pass over the sections for the files that some of them stand for, and one for
each kind of section. What comes of it is described without these passes:

* **`Section.get?_foldlM_addFile`** — the files that sections stand for, each of them.
* **`LogEngine.layout_eq_ok`** — a layout that succeeds has these, and two files of sections.
* **`LogEngine.grouped_perm`** — going through the kinds one by one loses no section of theirs and
  repeats none, so that each is written once.
-/

namespace Telemetry

open Failing

/-! ## Files that sections stand for -/

namespace Section

/-- A table with one more file holds that and all others. -/
theorem get?_addFile {files files' : Files} {s : Section} (h : addFile files s = .ok files')
    (name contents : String) :
    files'.get? name = some contents ↔
      files.get? name = some contents ∨ s.file? = some (name, contents) := by
  rw [addFile] at h
  cases hf : s.file? with
  | none =>
      rw [hf] at h
      obtain rfl := Except.ok.inj h
      simp
  | some f =>
      obtain ⟨n, t⟩ := f
      rw [hf] at h
      cases hg : files.get? n with
      | none =>
          simp only [hg] at h
          obtain rfl := Except.ok.inj h
          rw [Keyed.get?_insert, Option.some.injEq, Prod.mk.injEq]
          by_cases hn : name = n
          · rw [if_pos hn, hn, hg]
            simp
          · rw [if_neg hn]
            simp [Ne.symm hn]
      | some present =>
          simp only [hg] at h
          split at h
          · -- the same contents came before
            rename_i hsame
            obtain rfl := Except.ok.inj h
            refine ⟨.inl, ?_⟩
            rintro (h | h)
            · exact h
            · obtain ⟨rfl, rfl⟩ := Prod.mk.inj (Option.some.inj h)
              rw [hg, hsame]
          · cases h

/-- **The files that sections stand for** are all in the table, and nothing else is new there. The
induction is on the sections, with the table growing. -/
theorem get?_foldlM_addFile {ss : List Section} {files files' : Files}
    (h : ss.foldlM addFile files = .ok files') (name contents : String) :
    files'.get? name = some contents ↔
      files.get? name = some contents ∨ ∃ s ∈ ss, s.file? = some (name, contents) := by
  induction ss generalizing files with
  | nil =>
      obtain rfl := Except.ok.inj h
      simp
  | cons s ss ih =>
      obtain ⟨files₁, h₁, h⟩ := bind_eq_ok.mp h
      rw [ih h, get?_addFile h₁, or_assoc]
      simp

/-- No file is in the table twice, so that its entries are the files, each once. -/
theorem entries_foldlM_addFile {ss : List Section} {files : Files}
    (h : ss.foldlM addFile .empty = .ok files) :
    files.entries.Perm (ss.filterMap file?).dedup := by
  refine (List.perm_ext_iff_of_nodup files.entries_nodup (List.nodup_dedup _)).mpr ?_
  rintro ⟨name, contents⟩
  rw [Keyed.mem_entries_iff, get?_foldlM_addFile h, List.mem_dedup, List.mem_filterMap]
  exact or_iff_right fun hempty => nomatch hempty

end Section

namespace LogEngine

variable {ss : List Section}

/-! ## Sections kind by kind -/

/-- The sections of some kinds, kind by kind. -/
def grouped (kinds : List SectionKind) (ss : List Section) : List Section :=
  kinds.flatMap fun kind => ss.filter (·.kind = kind)

theorem mem_grouped {kinds : List SectionKind} {s : Section} :
    s ∈ grouped kinds ss ↔ s ∈ ss ∧ s.kind ∈ kinds := by
  simp [grouped, and_comm]

theorem grouped_append (kinds kinds' : List SectionKind) (ss : List Section) :
    grouped (kinds ++ kinds') ss = grouped kinds ss ++ grouped kinds' ss :=
  List.flatMap_append

/-- **Kind by kind, each section comes once.** The induction is on the kinds: those of the first kind
and those of the others make up the sections of all. -/
theorem grouped_perm {kinds : List SectionKind} (hn : kinds.Nodup) (ss : List Section) :
    (grouped kinds ss).Perm (ss.filter (·.kind ∈ kinds)) := by
  induction kinds with
  | nil => simp [grouped]
  | cons kind kinds ih =>
      obtain ⟨hnew, hn⟩ := List.nodup_cons.mp hn
      have hfirst : (ss.filter (·.kind ∈ kind :: kinds)).filter (·.kind = kind)
          = ss.filter (·.kind = kind) := by
        rw [List.filter_filter]
        refine List.filter_congr ?_
        intro s _
        by_cases hs : s.kind = kind <;> simp [hs]
      have hothers : (ss.filter (·.kind ∈ kind :: kinds)).filter (fun s => !decide (s.kind = kind))
          = ss.filter (·.kind ∈ kinds) := by
        rw [List.filter_filter]
        refine List.filter_congr ?_
        intro s _
        by_cases hs : s.kind = kind
        · simp [hs, hnew]
        · simp [hs]
      have hsplit := List.filter_append_perm (fun s : Section => decide (s.kind = kind))
        (ss.filter (·.kind ∈ kind :: kinds))
      rw [hfirst, hothers] at hsplit
      exact ((ih hn).append_left _).trans hsplit

/-! ## The two files of sections -/

/-- Joined lines, of which the first ones are set apart. -/
theorem join_append {ls ms : List String} (h : ms ≠ []) :
    Text.join "\n" (ls ++ ms) = Text.unlines ls ++ Text.join "\n" ms := by
  induction ls with
  | nil => simp [Text.unlines]
  | cons l ls ih =>
      rw [List.cons_append, Text.join, ih]
      · simp [Text.unlines, String.append_assoc]
      · simp [h]

/-- **What a layout that succeeds has written.** -/
theorem layout_eq_ok {vars : Keyed String} {files : Files} (h : Section.layout vars ss = .ok files) :
    ∃ others, ss.foldlM Section.addFile .empty = .ok others ∧
      files = (others.insert Section.mainFile (Text.join "\n" (Section.variableLines vars
          ++ (grouped Section.mainKinds ss).map Section.render))).insert Section.parserFile
        (Text.join "\n" ((grouped Section.parserKinds ss).map Section.render)) := by
  have hrenders : ∀ kinds,
      kinds.flatMap (Section.rendersOf ss) = (grouped kinds ss).map Section.render := by
    intro kinds
    rw [grouped, List.map_flatMap]
    rfl
  rw [Section.layout_eq] at h
  obtain ⟨others, hothers, h⟩ := bind_eq_ok.mp h
  split at h
  · obtain rfl := Except.ok.inj h
    rw [Section.mainText, Section.parserText, hrenders, hrenders]
    exact ⟨others, hothers, rfl⟩
  · cases h

/-- Under all other names a layout has the files that sections stand for. -/
theorem get?_layout_of_ne {vars : Keyed String} {files : Files}
    (h : Section.layout vars ss = .ok files) {name contents : String}
    (hmain : name ≠ Section.mainFile) (hparser : name ≠ Section.parserFile) :
    files.get? name = some contents ↔ (name, contents) ∈ ss.filterMap Section.file? := by
  obtain ⟨others, hothers, rfl⟩ := layout_eq_ok h
  rw [Keyed.get?_insert, if_neg hparser, Keyed.get?_insert, if_neg hmain,
    Section.get?_foldlM_addFile hothers, List.mem_filterMap]
  exact or_iff_right fun hempty => nomatch hempty

/-- What a layout writes into the two section files. -/
theorem get?_layout {vars : Keyed String} {files : Files} (h : Section.layout vars ss = .ok files)
    (hmain : grouped Section.mainKinds ss ≠ []) :
    files.get? Section.mainFile = some (Text.unlines (Section.variableLines vars)
      ++ Text.join "\n" ((grouped Section.mainKinds ss).map Section.render)) ∧
    files.get? Section.parserFile
      = some (Text.join "\n" ((grouped Section.parserKinds ss).map Section.render)) := by
  obtain ⟨others, -, rfl⟩ := layout_eq_ok h
  have hne : (grouped Section.mainKinds ss).map Section.render ≠ [] := by
    simpa using hmain
  rw [Keyed.get?_insert, Keyed.get?_insert, if_neg (by decide), if_pos rfl, Keyed.get?_insert,
    if_pos rfl, join_append hne]
  exact ⟨rfl, rfl⟩

end LogEngine

end Telemetry
