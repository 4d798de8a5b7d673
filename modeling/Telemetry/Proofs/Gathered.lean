import Telemetry.Proofs.Failing
import Telemetry.Section.Layout

/-!
# One pass over the sections

A layout goes through its sections once and gathers files, texts and unknown kinds side by side. Each
of the three is what a pass for it alone would give, because no step for one of them touches the
others, and only a file can end the pass:

* **`Section.Gathers.add`**, **`Section.Gathers.foldlM_add`** — a step, and so the whole pass, keeps
  what was gathered in line with the sections gone through.
* **`Section.foldlM_add_eq_error`** — the pass fails exactly if the one for the files does.
* **`Section.layout_eq`** — the layout in terms of these passes.
-/

namespace Telemetry.Section

open Failing

/-! ## A pass for each of the three -/

/-- The name of a kind that the log engine does not know. -/
def unknownKind? (s : Section) : Option String :=
  match s.kind with
  | .other name => some name
  | _ => none

theorem unknownKind?_eq_some {s : Section} {kind : String} :
    s.unknownKind? = some kind ↔ s.kind = .other kind := by
  rw [unknownKind?]
  cases s.kind <;> simp

/-- The unknown kinds among some sections, in ascending order and each once. -/
def unknownKinds (sections : List Section) : List String :=
  (Keyed.ofList ((sections.filterMap unknownKind?).map fun k => (k, ()))).keys

/-- The texts of the sections of one kind. -/
def rendersOf (sections : List Section) (kind : SectionKind) : List String :=
  (sections.filter (·.kind = kind)).map render

theorem rendersOf_append (ss ss' : List Section) (kind : SectionKind) :
    rendersOf (ss ++ ss') kind = rendersOf ss kind ++ rendersOf ss' kind := by
  simp only [rendersOf, List.filter_append, List.map_append]

theorem rendersOf_singleton (s : Section) (kind : SectionKind) :
    rendersOf [s] kind = if kind = s.kind then [s.render] else [] := by
  by_cases h : kind = s.kind
  · simp [rendersOf, h]
  · simp [rendersOf, h, Ne.symm h]

/-- A section of no kind that is written has no text. -/
theorem rendersOf_unwritten {s : Section} (h : s.kind ∉ mainKinds ++ parserKinds)
    {kind : SectionKind} (hkind : kind ∈ mainKinds ++ parserKinds) : rendersOf [s] kind = [] := by
  rw [rendersOf_singleton, if_neg]
  rintro rfl
  exact h hkind

/-! ## One step -/

variable {g g' : Gathered} {s : Section} {ss done : List Section} {e : SectionError}

/-- A section that does not stand for a file leaves the files as they are. -/
theorem addFile_of_ne {files : Files} (h : s.kind ≠ .file) : addFile files s = .ok files := by
  rw [addFile, file?, if_neg h]

/-- A step fails exactly if its file cannot be added. -/
theorem Gathered.add_eq_error : g.add s = .error e ↔ addFile g.files s = .error e := by
  rw [add]
  split
  · cases addFile g.files s <;> simp [Except.map]
  all_goals
    rw [addFile_of_ne (by simp_all)]
    simp

/-- **What a step that succeeds has gathered.** The cases are those of the kind of section. -/
theorem Gathered.add_eq_ok (h : g.add s = .ok g') :
    addFile g.files s = .ok g'.files ∧
    (∀ kind ∈ mainKinds ++ parserKinds, g'.texts kind = g.texts kind ++ rendersOf [s] kind) ∧
    g'.unknown = s.unknownKind?.elim g.unknown (g.unknown.insert · ()) := by
  rw [add] at h
  split at h
  case h_1 hk =>
    -- a file
    cases hf : addFile g.files s with
    | error e =>
        rw [hf] at h
        exact nomatch h
    | ok files =>
        rw [hf] at h
        obtain rfl := Except.ok.inj h
        refine ⟨rfl, ?_, by rw [unknownKind?, hk]; rfl⟩
        intro kind hkind
        rw [rendersOf_unwritten (by rw [hk]; decide) hkind, List.append_nil]
  case h_2 name hk =>
    -- a kind that is not known
    obtain rfl := Except.ok.inj h
    refine ⟨addFile_of_ne (by simp [hk]), ?_, by rw [unknownKind?, hk]; rfl⟩
    intro kind hkind
    rw [rendersOf_unwritten (by simp [hk, mainKinds, parserKinds]) hkind, List.append_nil]
  case h_3 kind hfile hother =>
    -- a kind that is written
    obtain rfl := Except.ok.inj h
    refine ⟨addFile_of_ne hfile, ?_, ?_⟩
    · intro kind hkind
      dsimp only
      rw [rendersOf_singleton]
      split
      · rfl
      · exact (List.append_nil _).symm
    · have hnone : s.unknownKind? = none := by
        rw [Option.eq_none_iff_forall_ne_some]
        intro name h
        exact hother name (unknownKind?_eq_some.mp h)
      rw [hnone]
      rfl

/-! ## The whole pass -/

/-- What was gathered is what a pass for the files, one for the texts of each kind and one for the
unknown kinds give. -/
structure Gathers (ss : List Section) (g : Gathered) : Prop where
  files : ss.foldlM addFile .empty = .ok g.files
  texts : ∀ kind ∈ mainKinds ++ parserKinds, g.texts kind = rendersOf ss kind
  unknown : g.unknown = .ofList ((ss.filterMap unknownKind?).map fun k => (k, ()))

theorem gathers_nil : Gathers [] .empty where
  files := rfl
  texts _ _ := rfl
  unknown := rfl

/-- **One section more** is gathered as the passes do. -/
theorem Gathers.add (h : Gathers done g) (hs : g.add s = .ok g') : Gathers (done ++ [s]) g' := by
  obtain ⟨hfiles, htexts, hunknown⟩ := Gathered.add_eq_ok hs
  constructor
  case files =>
    rw [List.foldlM_append]
    exact bind_eq_ok.mpr ⟨g.files, h.files, bind_eq_ok.mpr ⟨g'.files, hfiles, rfl⟩⟩
  case texts =>
    intro kind hkind
    rw [htexts kind hkind, h.texts kind hkind, rendersOf_append]
  case unknown =>
    rw [hunknown, h.unknown, List.filterMap_append, List.map_append, Keyed.ofList, Keyed.ofList,
      List.foldl_append, List.filterMap_cons, List.filterMap_nil]
    cases s.unknownKind? <;> rfl

/-- **The whole pass** gathers as the passes do. The induction is on the sections to come. -/
theorem Gathers.foldlM_add (h : Gathers done g) (hss : ss.foldlM Gathered.add g = .ok g') :
    Gathers (done ++ ss) g' := by
  induction ss generalizing done g with
  | nil =>
      obtain rfl := Except.ok.inj hss
      rw [List.append_nil]
      exact h
  | cons s ss ih =>
      obtain ⟨g₁, hs, hss⟩ := bind_eq_ok.mp hss
      have h₁ := ih (h.add hs) hss
      rwa [List.append_assoc] at h₁

/-- **The pass fails exactly if the one for the files does,** for the same section and in the same
way. -/
theorem foldlM_add_eq_error :
    ss.foldlM Gathered.add g = .error e ↔ ss.foldlM addFile g.files = .error e := by
  induction ss generalizing g with
  | nil => exact iff_of_false (fun h => nomatch h) (fun h => nomatch h)
  | cons s ss ih =>
      rw [List.foldlM_cons, List.foldlM_cons, bind_eq_error, bind_eq_error, Gathered.add_eq_error]
      refine or_congr_right ?_
      constructor
      · rintro ⟨g₁, hs, hss⟩
        exact ⟨g₁.files, (Gathered.add_eq_ok hs).1, ih.mp hss⟩
      · rintro ⟨files, hs, hss⟩
        cases hadd : g.add s with
        | error e' =>
            rw [Gathered.add_eq_error.mp hadd] at hs
            exact nomatch hs
        | ok g₁ =>
            obtain rfl := Except.ok.inj (hs.symm.trans (Gathered.add_eq_ok hadd).1)
            exact ⟨g₁, rfl, ih.mpr hss⟩

/-- **A layout** gathers the files, then looks for unknown kinds, and then writes. -/
theorem layout_eq (vars : Keyed String) (ss : List Section) :
    layout vars ss = ss.foldlM addFile .empty >>= fun files =>
      if unknownKinds ss = [] then
        .ok ((files.insert mainFile (mainText vars (rendersOf ss))).insert parserFile
          (parserText (rendersOf ss)))
      else .error (.unknownSections (unknownKinds ss)) := by
  rw [layout]
  cases hg : ss.foldlM Gathered.add .empty with
  | error e =>
      have hfiles : ss.foldlM addFile .empty = .error e := foldlM_add_eq_error.mp hg
      rw [hfiles]
      rfl
  | ok g =>
      have h : Gathers ss g := gathers_nil.foldlM_add hg
      have hmain : mainText vars g.texts = mainText vars (rendersOf ss) := by
        rw [mainText, mainText]
        refine congrArg (fun texts => Text.join "\n" (variableLines vars ++ texts)) ?_
        exact List.flatMap_congr fun kind hkind => h.texts kind (List.mem_append_left _ hkind)
      have hparsers : parserText g.texts = parserText (rendersOf ss) :=
        congrArg (Text.join "\n")
          (List.flatMap_congr fun kind hkind => h.texts kind (List.mem_append_right _ hkind))
      have hunknown : g.unknown.keys = unknownKinds ss := congrArg Keyed.keys h.unknown
      rw [h.files, ← hmain, ← hparsers, ← hunknown]
      dsimp only [bind, Except.bind]
      cases g.unknown.keys <;> rfl

end Telemetry.Section
