import Telemetry.Proofs.Run

/-!
# Position databases

An input that keeps its position does so in a database named after the base tag of its instance, in
which five characters cannot be told apart: four separators become an underscore. Base tags are
distinct, but the names need not be.

* **`SameButSeparators`** — two texts are equal but for characters that look alike in a file name.
* **`LogReceiver.keepsPositions`** — the receivers whose inputs keep a position.
* **`compile_databases`** — the databases of a compilation that gives files, and that they are
  distinct exactly if no two such instances have base tags that look alike.
-/

namespace Telemetry

open Failing

/-! ## Texts that look alike in a file name -/

/-- The characters that look alike in the name of a database. -/
def fileSeparators : List Char := ['.', '/', ':', '\\', '_']

/-- Two texts agree character by character, where they do not both have a separator. -/
def SameButSeparators (s t : String) : Prop :=
  List.Forall₂ (fun c d => c = d ∨ (c ∈ fileSeparators ∧ d ∈ fileSeparators)) s.toList t.toList

/-- The characters of file names come from equal characters or from separators. -/
theorem fileChar_eq_iff (c d : Char) :
    (if ['.', '/', ':', '\\'].contains c then '_' else c)
        = (if ['.', '/', ':', '\\'].contains d then '_' else d) ↔
      c = d ∨ (c ∈ fileSeparators ∧ d ∈ fileSeparators) := by
  have key : ∀ c, c ∈ fileSeparators ↔ ['.', '/', ':', '\\'].contains c = true ∨ c = '_' := by
    intro c
    simp [fileSeparators, or_assoc]
  rw [key, key]
  by_cases hc : ['.', '/', ':', '\\'].contains c = true
  · rw [if_pos hc]
    by_cases hd : ['.', '/', ':', '\\'].contains d = true
    · rw [if_pos hd]
      exact ⟨fun _ => .inr ⟨.inl hc, .inl hd⟩, fun _ => rfl⟩
    · rw [if_neg hd]
      constructor
      · intro h
        exact .inr ⟨.inl hc, .inr h.symm⟩
      · rintro (rfl | ⟨-, h | h⟩)
        · exact absurd hc hd
        · exact absurd h hd
        · exact h.symm
  · rw [if_neg hc]
    by_cases hd : ['.', '/', ':', '\\'].contains d = true
    · rw [if_pos hd]
      constructor
      · intro h
        exact .inr ⟨.inr h, .inl hd⟩
      · rintro (rfl | ⟨h | h, -⟩)
        · exact absurd hd hc
        · exact absurd h hc
        · exact h
    · rw [if_neg hd]
      constructor
      · exact .inl
      · rintro (h | ⟨h | h, h' | h'⟩)
        · exact h
        · exact absurd h hc
        · exact absurd h hc
        · exact absurd h' hd
        · exact h.trans h'.symm

/-- **Two inputs have one database exactly if their base tags look alike.** -/
theorem positions_eq_iff {t t' : Tag} :
    Input.positions t = Input.positions t' ↔ SameButSeparators t.base t'.base := by
  have hpath : Input.positions t = Input.positions t' ↔ t.fileSafe = t'.fileSafe := by
    unfold Input.positions
    exact ⟨fun h => (String.append_right_inj _).mp h, fun h => by rw [h]⟩
  rw [hpath, Tag.fileSafe, Tag.fileSafe, Text.mapChars, Text.mapChars, String.ofList_inj,
    ← List.forall₂_eq_eq_eq, List.forall₂_map_left_iff, List.forall₂_map_right_iff]
  rw [SameButSeparators]
  simp only [fileChar_eq_iff]

/-- The base tag of an instance does not look like the tag of the agent's own logs, which has no
separator. -/
theorem not_sameButSeparators_selfLogTag (i : LogInstance) :
    ¬ SameButSeparators i.tag.base selfLogTag.base := by
  intro h
  have hdot : '.' ∈ i.tag.base.toList := by
    rw [LogInstance.base_eq]
    simp
  have hself : selfLogTag.base.toList.filter (· ∈ fileSeparators) = [] := by
    decide
  obtain ⟨d, hd, hsame⟩ := exists_of_mem_forall₂ h.flip hdot
  have hno : d ∉ fileSeparators := by
    simpa using List.filter_eq_nil_iff.mp hself d hd
  rcases hsame with rfl | ⟨-, hsep⟩
  · exact hno (by decide)
  · exact hno hsep

/-! ## Receivers that keep positions -/

/-- Whether the input of a receiver keeps its position. -/
def LogReceiver.keepsPositions : LogReceiver → Bool
  | configured (.files _) => true
  | configured (.app _ _) => true
  | configured (.eventLog _) => true
  | tail _ _ => true
  | _ => false

/-- **The database of a bound instance** of an accepted domain is that of its base tag, if its
receiver keeps positions. Accepted receivers for files have paths, so none lacks its input. -/
theorem LogInstance.simplify_databases {l : Logging} (hl : l.Accepted) {engine : LogEngine}
    {i : LogInstance} (h : i.ResolvedIn l engine) :
    i.simplify.names.databases
      = if i.receiver.keepsPositions then [Input.positions i.tag] else [] := by
  obtain ⟨config, -, hr⟩ := h.receiver
  have hpos : Input.positions i.simplify.tag = Input.positions i.tag := by
    rw [simplify_tag]
  rw [names_databases]
  rcases simplify_receiver_cases hl h with ⟨he, hs⟩ | ⟨he, s, rules, hs, hpaths⟩
  · rw [hs, hr]
    rw [hr] at he
    cases config with
    | files s => exact nomatch he
    | app a s => exact nomatch he
    | syslog transport host port => rfl
    | tcp host port format => rfl
    | forward host port => rfl
    | eventLog channels =>
        rw [← hpos]
        rfl
  · -- what expands is for files, and a tail with paths has the database
    have hkeeps : i.receiver.keepsPositions = true := by
      rw [hr] at he ⊢
      cases config <;> first | rfl | exact absurd he Bool.false_ne_true
    rw [if_pos hkeeps, hs, ← hpos]
    show (if s.includePaths.isEmpty then [] else [Input.positions i.simplify.tag]) = _
    rw [if_neg (by simpa using hpaths)]

/-! ## Databases of a compilation -/

/-- Two instances keep their positions in one database, although their base tags differ. -/
def LogInstance.PositionClash (i j : LogInstance) : Prop :=
  i.receiver.keepsPositions = true ∧ j.receiver.keepsPositions = true ∧
    i.tag.base ≠ j.tag.base ∧ SameButSeparators i.tag.base j.tag.base

/-- The databases of bound instances are those of the instances that keep positions. -/
theorem flatMap_databases {c : Config} (hc : c.check = .ok ()) {engine : LogEngine}
    {is : List LogInstance} (h : ∀ i ∈ is, ∃ l, c.logging = some l ∧ i.ResolvedIn l engine) :
    is.flatMap (·.simplify.names.databases)
      = (is.filter (·.receiver.keepsPositions)).map (Input.positions ·.tag) := by
  induction is with
  | nil => rfl
  | cons i is ih =>
      obtain ⟨⟨l, hl, hi⟩, hrest⟩ := List.forall_mem_cons.mp h
      rw [List.flatMap_cons, ih hrest,
        LogInstance.simplify_databases (Config.logging_accepted hc hl) hi, List.filter_cons]
      by_cases hk : i.receiver.keepsPositions = true
      · rw [if_pos hk, if_pos hk]
        rfl
      · rw [if_neg hk, if_neg hk]
        rfl

/-- **The databases of instances with distinct base tags** are distinct exactly if none clash. -/
theorem nodup_positions_iff {is : List LogInstance} (hb : (baseTags is).Nodup) :
    ((is.filter (·.receiver.keepsPositions)).map (Input.positions ·.tag)).Nodup ↔
      ¬ ∃ i ∈ is, ∃ j ∈ is, i.PositionClash j := by
  have hdistinct : is.Nodup := List.Nodup.of_map _ hb
  rw [List.nodup_map_iff_inj_on (hdistinct.filter _)]
  constructor
  · rintro h ⟨i, hi, j, hj, hki, hkj, hne, hsame⟩
    have he := h i (List.mem_filter.mpr ⟨hi, hki⟩) j (List.mem_filter.mpr ⟨hj, hkj⟩)
      (positions_eq_iff.mpr hsame)
    rw [he] at hne
    exact hne rfl
  · intro h i hi j hj he
    obtain ⟨hi, hki⟩ := List.mem_filter.mp hi
    obtain ⟨hj, hkj⟩ := List.mem_filter.mp hj
    -- instances that look alike have one base tag, and then they are one
    have hbase : i.tag.base = j.tag.base := by
      by_contra hne
      exact h ⟨i, hi, j, hj, hki, hkj, hne, positions_eq_iff.mp he⟩
    exact List.inj_on_of_nodup_map hb hi hj hbase

namespace LogEngine

variable {c : Config} {p : Platform} {o : CompileOptions}

/-- **The position databases of a compilation that gives files.** They are those of the instances
that keep positions, and that of the agent's own logs; and they are distinct exactly if no two
instances clash. -/
theorem compile_databases (hc : c.check = .ok ()) {files : Files} (h : compile c p o = .ok files) :
    ∃ is ss, c.logInstances .fluentBit = .ok is ∧ emittedSections c p o = .ok ss ∧
      Section.layout (mainVariables p.buffersDir p.logsDir) ss = .ok files ∧
      (namesIn ss).databases
        = (is.filter (·.receiver.keepsPositions)).map (Input.positions ·.tag)
          ++ (if o.selfLogs then [Input.positions selfLogTag] else []) ∧
      ((namesIn ss).databases.Nodup ↔ ¬ ∃ i ∈ is, ∃ j ∈ is, i.PositionClash j) := by
  obtain ⟨is, own, ss, his, hparts, hemitted, hlayout, -, -⟩ := parts_of_compile h
  obtain ⟨hb, hbound⟩ := Config.logInstances_eq_ok his
  have hdatabases : (namesIn (collected ss)).databases
      = (is.filter (·.receiver.keepsPositions)).map (Input.positions ·.tag)
        ++ (if o.selfLogs then [Input.positions selfLogTag] else []) := by
    rw [hparts.namesIn_written, flatMap_databases hc hbound]
  refine ⟨is, collected ss, his, hemitted, hlayout, hdatabases, ?_⟩
  rw [hdatabases, ← nodup_positions_iff hb]
  -- the database of the agent's own logs is none of an instance
  have hself : ∀ d ∈ (is.filter (·.receiver.keepsPositions)).map (Input.positions ·.tag),
      ∀ d' ∈ (if o.selfLogs then [Input.positions selfLogTag] else []), d ≠ d' := by
    rintro d hd d' hd' rfl
    obtain ⟨i, -, rfl⟩ := List.mem_map.mp hd
    split at hd'
    · exact not_sameButSeparators_selfLogTag i (positions_eq_iff.mp (List.mem_singleton.mp hd'))
    · exact nomatch hd'
  constructor
  · exact fun hn => (List.nodup_append.mp hn).1
  · intro hn
    refine List.nodup_append.mpr ⟨hn, ?_, hself⟩
    split
    · exact List.nodup_singleton _
    · exact List.nodup_nil

/-- A receiver for files and one for the event log, with separators in their base tags. -/
def keptPositions : Config where
  logging := some {
    receivers := .ofList [
      ("a", .files { includePaths := ["/a.log"] }),
      ("b.c", .eventLog ["System"])]
    pipelines := .ofList [("p", { receivers := ["a", "b.c"] })] }

/-- The position databases for `keptPositions` and the agent's own logs. -/
theorem compile_databases_keptPositions : keptPositions.check = .ok () ∧
    ∃ files, compile keptPositions samplePlatform { selfLogs := true } = .ok files ∧
      ∃ is ss, keptPositions.logInstances .fluentBit = .ok is ∧
        emittedSections keptPositions samplePlatform { selfLogs := true } = .ok ss ∧
        ((namesIn ss).databases.Nodup ↔ ¬ ∃ i ∈ is, ∃ j ∈ is, i.PositionClash j) := by
  have hc : keptPositions.check = .ok () := rfl
  obtain ⟨files, h⟩ : ∃ files,
      compile keptPositions samplePlatform { selfLogs := true } = .ok files :=
    exists_of_isOk rfl
  obtain ⟨is, ss, his, hss, -, -, hnodup⟩ := compile_databases hc h
  exact ⟨hc, files, h, is, ss, his, hss, hnodup⟩

/-- Two pipelines, `a_b` with the receiver `c` and `a` with the receiver `b_c`. The base tags are
`a_b.c` and `a.b_c`. -/
def clashingPositions : Config where
  logging := some {
    receivers := .ofList [
      ("c", .files { includePaths := ["/a.log"] }),
      ("b_c", .files { includePaths := ["/b.log"] })]
    pipelines := .ofList [("a_b", { receivers := ["c"] }), ("a", { receivers := ["b_c"] })] }

/-- **Two inputs can share one position database** in the files for an accepted configuration. -/
theorem compile_clashingPositions : clashingPositions.check = .ok () ∧
    (∃ files, compile clashingPositions samplePlatform {} = .ok files) ∧
    ∃ ss, emittedSections clashingPositions samplePlatform {} = .ok ss ∧
      (namesIn ss).databases = ["$\x7bbuffers_dir\x7d/a_b_c", "$\x7bbuffers_dir\x7d/a_b_c"] := by
  refine ⟨rfl, exists_of_isOk rfl, ?_⟩
  have h : (emittedSections clashingPositions samplePlatform {}).map (fun ss =>
      (namesIn ss).databases)
      = .ok ["$\x7bbuffers_dir\x7d/a_b_c", "$\x7bbuffers_dir\x7d/a_b_c"] := by
    decide +kernel
  exact map_eq_ok.mp h

end LogEngine

end Telemetry
