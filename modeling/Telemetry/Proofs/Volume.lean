import Mathlib.Data.List.Basic
import Telemetry.Proofs.Failing
import Telemetry.Storage.Volume

/-!
# Writing files in memory

A command writes its files one by one, and finds its folder again by the path for each of them. What
is written in between takes no folder away, so that the path leads to the same place each time, and
the files have names of their own, so that none is written over.

* **`Volume.resolve_of_resolve`** — a path leads to the same place where all folders are still there.
* **`Volume.writeText_eq_ok`** — what it takes to write a file, and what the volume is then.
* **`Volume.text?_putAll`** — what is in a folder after some files were put there.
-/

namespace Telemetry.Volume

open Failing

variable {v v' : Volume} {l l' : Location}

/-! ## Paths -/

theorem locate_of_locate (h : ∀ l, v.isFolder l → v'.isFolder l) {parts : List String}
    (hl : v.locate l parts = .ok l') : v'.locate l parts = .ok l' := by
  induction parts generalizing l with
  | nil => exact hl
  | cons part rest ih =>
      rw [locate] at hl ⊢
      cases hfolder : v.isFolder l with
      | false =>
          rw [hfolder] at hl
          exact nomatch hl
      | true =>
          rw [hfolder] at hl
          rw [h l hfolder]
          by_cases hhere : part = "" ∨ part = "."
          · simp only [if_pos hhere] at hl ⊢
            exact ih hl
          · by_cases hback : part = ".."
            · simp only [if_neg hhere, if_pos hback] at hl ⊢
              exact ih hl
            · simp only [if_neg hhere, if_neg hback] at hl ⊢
              exact ih hl

/-- **A path leads to the same place** in a volume that has all folders of the other. -/
theorem resolve_of_resolve (h : ∀ l, v.isFolder l → v'.isFolder l) {path : String}
    (hl : v.resolve path = .ok l) : v'.resolve path = .ok l := by
  rw [resolve] at hl ⊢
  split at hl <;> exact locate_of_locate h hl

/-! ## One file -/

/-- The volume with a file at a location, in the place of any that was there. -/
def put (v : Volume) (l : Location) (text : String) : Volume :=
  { v with files := (l, text) :: v.files.filter (·.1 ≠ l) }

/-- **What it takes to write a file** in a folder. -/
theorem writeText_eq_ok {folder name text : String} :
    v.writeText folder name text = .ok v' ↔
      ∃ l, v.resolve folder = .ok l ∧ v.isFolder l ∧ ¬ v.isFolder (l ++ [name]) ∧
        v' = v.put (l ++ [name]) text := by
  rw [writeText, bind_eq_ok]
  refine exists_congr fun l => and_congr_right fun _ => ?_
  by_cases hfolder : v.isFolder l
  · by_cases hname : v.isFolder (l ++ [name])
    · simp [hfolder, hname]
    · simp [hfolder, hname, put, eq_comm (a := v')]
  · simp [hfolder]

theorem lookup_filter_ne {l l' : Location} (hl : l' ≠ l) (files : List (Location × String)) :
    (files.filter (·.1 ≠ l)).lookup l' = files.lookup l' := by
  induction files with
  | nil => rfl
  | cons f files ih =>
      by_cases hf : f.1 = l
      · rw [List.filter_cons_of_neg (by simpa using hf), ih, List.lookup_cons,
          beq_eq_false_iff_ne.mpr (hf ▸ hl)]
      · rw [List.filter_cons_of_pos (by simpa using hf), List.lookup_cons, List.lookup_cons, ih]

/-- A file that is put somewhere leaves all others as they were. -/
theorem text?_put (v : Volume) (l l' : Location) (text : String) :
    (v.put l text).text? l' = if l' = l then some text else v.text? l' := by
  rw [text?, put, List.lookup_cons]
  by_cases hl : l' = l
  · rw [if_pos hl, beq_iff_eq.mpr hl]
  · rw [if_neg hl, beq_eq_false_iff_ne.mpr hl, lookup_filter_ne hl, text?]

/-- A file that is put somewhere adds the folders around it, and takes none away. -/
theorem isFolder_put (v : Volume) (l l' : Location) (text : String) :
    (v.put l text).isFolder l' ↔ v.isFolder l' ∨ (l'.isPrefixOf l ∧ l'.length < l.length) := by
  have hfiles : (v.put l text).files.any (fun f => l'.isPrefixOf f.1 && l'.length < f.1.length) ↔
      v.files.any (fun f => l'.isPrefixOf f.1 && l'.length < f.1.length) ∨
        (l'.isPrefixOf l ∧ l'.length < l.length) := by
    simp only [put, List.any_cons, List.any_filter, Bool.or_eq_true, Bool.and_eq_true,
      decide_eq_true_eq, List.any_eq_true]
    constructor
    · rintro (h | ⟨f, hf, -, h⟩)
      · exact .inr h
      · exact .inl ⟨f, hf, h⟩
    · rintro (⟨f, hf, h⟩ | h)
      · by_cases hl : f.1 = l
        · exact .inl (hl ▸ h)
        · exact .inr ⟨f, hf, hl, h⟩
      · exact .inl h
  simp only [isFolder, Bool.or_eq_true, hfiles, or_assoc]
  rfl

/-! ## Some files -/

/-- The volume with files of some names in a folder. -/
def putAll (v : Volume) (l : Location) (files : List (String × String)) : Volume :=
  files.foldl (fun v f => v.put (l ++ [f.1]) f.2) v

/-- What is somewhere else stays as it is. -/
theorem text?_putAll_of_ne {files : List (String × String)} (h : ∀ f ∈ files, l' ≠ l ++ [f.1])
    (v : Volume) : (v.putAll l files).text? l' = v.text? l' := by
  induction files generalizing v with
  | nil => rfl
  | cons f files ih =>
      obtain ⟨hf, hfiles⟩ := List.forall_mem_cons.mp h
      rw [putAll, List.foldl_cons, ← putAll, ih hfiles, text?_put, if_neg hf]

/-- **Files with different names** are all there when they have been put into a folder. -/
theorem text?_putAll {files : List (String × String)} (hn : (files.map (·.1)).Nodup)
    {name text : String} (h : (name, text) ∈ files) (v : Volume) :
    (v.putAll l files).text? (l ++ [name]) = some text := by
  induction files generalizing v with
  | nil => exact nomatch h
  | cons f files ih =>
      rw [List.map_cons, List.nodup_cons] at hn
      rw [putAll, List.foldl_cons, ← putAll]
      rcases List.mem_cons.mp h with rfl | h
      · -- the files behind it have other names
        rw [text?_putAll_of_ne, text?_put, if_pos rfl]
        intro f hf he
        have hname : name = f.1 := by simpa using he
        exact hn.1 (List.mem_map.mpr ⟨f, hf, hname.symm⟩)
      · exact ih hn.2 h _

/-- Where files are put into a folder, all folders are still there. -/
theorem isFolder_putAll (h : v.isFolder l') (l : Location) (files : List (String × String)) :
    (v.putAll l files).isFolder l' := by
  induction files generalizing v with
  | nil => exact h
  | cons f files ih =>
      rw [putAll, List.foldl_cons, ← putAll]
      exact ih ((isFolder_put _ _ _ _).mpr (.inl h))

end Telemetry.Volume
