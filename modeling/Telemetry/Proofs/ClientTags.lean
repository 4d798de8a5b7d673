import Telemetry.Proofs.Isolation
import Telemetry.Proofs.PackedValues

/-!
# The client's part of a tag

Behind an input whose clients extend its tag, a script copies the client's part into the log name. It
takes the tag apart at dots, where nothing between two dots is no segment, and counts: the part of the
client begins with the fourth segment.

* **`Text.runs_eq`** — the runs that the script finds are what stands between dots and is not empty.
* **`Tag.segments_dynamic`** — a tag has the segments of its head, as far as they are not empty, and
  behind them those of the client.
* **`Script.findsClient_iff`** — so the part of the client is found exactly if neither id is empty.
  With an empty one, the count is off: **`Script.not_findsClient_nameless`**.
-/

namespace Telemetry

/-! ## Runs between separators -/

namespace Text

/-- The runs of characters other than a separator, from the left and each as long as it can be: what
a search for the pattern `[^.]+` finds, one hit behind the other. -/
def runs (d : Char) : List Char → List (List Char)
  | [] => []
  | c :: cs =>
    if c = d then runs d cs
    else (c :: cs.takeWhile (· ≠ d)) :: runs d (cs.dropWhile (· ≠ d))
termination_by cs => cs.length
decreasing_by
  · exact Nat.lt_succ_self _
  · exact Nat.lt_succ_of_le (List.dropWhile_suffix _).length_le

/-- The runs of a text, which are never empty. -/
def segments (d : Char) (s : String) : List String :=
  (runs d s.toList).map String.ofList

variable {d : Char}

/-- **The runs are what stands between separators and is not empty.** The induction follows the search:
a separator is passed over, and a run reaches to the next separator or to the end. -/
theorem runs_eq (cs : List Char) : runs d cs = (cs.splitOn d).filter (· ≠ []) := by
  have hpassed : ∀ cs : List Char, ((d :: cs).splitOn d).filter (· ≠ [])
      = (cs.splitOn d).filter (· ≠ []) := by
    intro cs
    have hempty : (d :: cs).splitOn d = [] :: cs.splitOn d :=
      List.splitOn_append_cons_self_of_not_mem List.not_mem_nil cs
    rw [hempty, List.filter_cons_of_neg (by simp)]
  fun_induction runs d cs with
  | case1 => rfl
  | case2 cs ih => rw [hpassed, ih]
  | case3 c cs hc ih =>
      have hrun : d ∉ c :: cs.takeWhile (· ≠ d) := by
        intro hd
        rcases List.mem_cons.mp hd with rfl | hd
        · exact hc rfl
        · simpa using List.mem_takeWhile_imp hd
      have hcut : c :: cs = (c :: cs.takeWhile (· ≠ d)) ++ cs.dropWhile (· ≠ d) := by
        rw [List.cons_append, List.takeWhile_append_dropWhile]
      rw [hcut, ih]
      cases hrest : cs.dropWhile (· ≠ d) with
      | nil =>
          rw [List.append_nil, List.splitOn_eq_singleton hrun]
          rfl
      | cons c' rest =>
          have hend := List.head?_dropWhile_not (· ≠ d) cs
          rw [hrest] at hend
          obtain rfl : c' = d := by simpa using hend
          rw [hpassed, List.splitOn_append_cons_self_of_not_mem hrun,
            List.filter_cons_of_pos (by simp)]

/-- The segments of a text are its parts between separators, as far as they are not empty. -/
theorem segments_eq (s : String) : segments d s = (split d s).filter (· ≠ "") := by
  rw [segments, runs_eq, split, List.filter_map]
  congr 1
  refine List.filter_congr fun part _ => ?_
  simp

variable {sep : String} (hs : sep.toList = [d])
include hs

/-- Parts at the end of a text are the whole text only if all parts are there. -/
theorem join_drop_split_iff (s : String) (k : Nat) :
    (k < (split d s).length ∧ join sep ((split d s).drop k) = s) ↔ k = 0 := by
  constructor
  · rintro ⟨hlt, hjoin⟩
    have hparts : split d (join sep ((split d s).drop k)) = (split d s).drop k := by
      refine (split_join_iff hs _).mpr ⟨?_, ?_⟩
      · rw [Ne, List.drop_eq_nil_iff]
        omega
      · intro part hpart
        exact ((split_join_iff hs _).mp (congrArg (split d) (join_split hs s))).2 part
          (List.mem_of_mem_drop hpart)
    rw [hjoin] at hparts
    have hlength := congrArg List.length hparts
    rw [List.length_drop] at hlength
    omega
  · rintro rfl
    refine ⟨List.length_pos_iff.mpr ?_, join_split hs s⟩
    exact ((split_join_iff hs _).mp (congrArg (split d) (join_split hs s))).1

end Text

/-! ## Tags of inputs with clients -/

namespace Tag

/-- The segments of a dynamic head in front of the hash. An empty id gives none. -/
def idSegments (pipeline receiver : String) : List String :=
  [segment pipeline, segment receiver].filter (· ≠ "")

/-- Only an empty id is empty as a segment. -/
theorem segment_eq_empty_iff {id : String} : segment id = "" ↔ id = "" := by
  rw [← String.toList_inj, ← String.toList_inj, segment, Text.mapChars, String.toList_ofList]
  exact List.map_eq_nil_iff

/-- Both ids give a segment exactly if neither is empty. -/
theorem length_idSegments (pipeline receiver : String) :
    (idSegments pipeline receiver).length ≤ 2 ∧
      ((idSegments pipeline receiver).length = 2 ↔ pipeline ≠ "" ∧ receiver ≠ "") := by
  by_cases hp : pipeline = "" <;> by_cases hr : receiver = "" <;>
    simp [idSegments, segment_eq_empty_iff, hp, hr]

/-- The parts of a tag between its dots: the three of its head, and those of the client. -/
theorem split_dynamic (pipeline receiver client : String) :
    Text.split '.' ((forInstance pipeline receiver true).input ++ client)
      = segment pipeline :: segment receiver :: contentHash (pipeline ++ "." ++ receiver)
        :: Text.split '.' client := by
  have hdot : '.' ∉ "0123456789abcdef".toList := by decide
  rw [Text.split, String.toList_append, toList_dynamicInput]
  simp only [List.append_assoc, List.cons_append, List.nil_append]
  rw [List.splitOn_append_cons_self_of_not_mem (dot_notMem_segment pipeline),
    List.splitOn_append_cons_self_of_not_mem (dot_notMem_segment receiver),
    List.splitOn_append_cons_self_of_not_mem (notMem_contentHash hdot _)]
  simp [Text.split]

theorem contentHash_ne_empty (s : String) : contentHash s ≠ "" := by
  intro h
  have hlength := congrArg (fun hash : String => hash.toList.length) h
  simp [contentHash, Digest.hexWord] at hlength

/-- **The segments of a tag** are those of the ids that are not empty, the hash, and those of the
client. -/
theorem segments_dynamic (pipeline receiver : String) {client : String}
    (h : ∀ part ∈ Text.split '.' client, part ≠ "") :
    Text.segments '.' ((forInstance pipeline receiver true).input ++ client)
      = idSegments pipeline receiver ++ contentHash (pipeline ++ "." ++ receiver)
        :: Text.split '.' client := by
  have hfull : ∀ part ∈ contentHash (pipeline ++ "." ++ receiver) :: Text.split '.' client,
      decide (part ≠ "") = true := by
    intro part hpart
    rcases List.mem_cons.mp hpart with rfl | hpart
    · exact decide_eq_true (contentHash_ne_empty _)
    · exact decide_eq_true (h part hpart)
  rw [Text.segments_eq, split_dynamic, idSegments, ← List.filter_eq_self.mpr hfull,
    ← List.filter_append, List.filter_eq_self.mpr hfull]
  rfl

end Tag

namespace Script

/-- The script that copies the part of a client into the log name finds it in a tag: there is a fourth
segment, and from there on the segments with dots between them are what the client wrote. -/
def FindsClient (tag client : String) : Prop :=
  4 ≤ (Text.segments '.' tag).length ∧
    Text.join "." ((Text.segments '.' tag).drop 3) = client

/-- **The part of the client is found exactly if neither id is empty,** for every tag that a client
writes in segments that are not empty. -/
theorem findsClient_iff (pipeline receiver : String) {client : String}
    (h : ∀ part ∈ Text.split '.' client, part ≠ "") :
    FindsClient ((Tag.forInstance pipeline receiver true).input ++ client) client ↔
      pipeline ≠ "" ∧ receiver ≠ "" := by
  obtain ⟨hle, htwo⟩ := Tag.length_idSegments pipeline receiver
  rw [← htwo, FindsClient, Tag.segments_dynamic pipeline receiver h]
  generalize Tag.idSegments pipeline receiver = ids at hle ⊢
  -- each id that gives no segment costs the client one
  have hdrop : (ids ++ contentHash (pipeline ++ "." ++ receiver) :: Text.split '.' client).drop 3
      = (Text.split '.' client).drop (2 - ids.length) := by
    have hbehind : 3 - ids.length = (2 - ids.length) + 1 := by omega
    rw [List.drop_append, List.drop_eq_nil_of_le (Nat.le_succ_of_le hle), List.nil_append, hbehind,
      List.drop_succ_cons]
  have hcount : 4 ≤ (ids ++ contentHash (pipeline ++ "." ++ receiver)
      :: Text.split '.' client).length ↔ 2 - ids.length < (Text.split '.' client).length := by
    rw [List.length_append, List.length_cons]
    omega
  have hall : 2 - ids.length = 0 ↔ ids.length = 2 := by omega
  rw [hdrop, hcount, Text.join_drop_split_iff rfl, hall]

/-- Ids with dots, which are single segments of the tag. -/
theorem findsClient_iff_dottedIds : (∀ part ∈ Text.split '.' "app.web", part ≠ "") ∧
    FindsClient ((Tag.forInstance "a.b" ".c" true).input ++ "app.web") "app.web" := by
  have h : ∀ part ∈ Text.split '.' "app.web", part ≠ "" := by decide
  exact ⟨h, (findsClient_iff "a.b" ".c" h).mpr ⟨by decide, by decide⟩⟩

/-- A pipeline with an empty id, for records that clients send. -/
def namelessPipeline : Config where
  logging := some {
    receivers := .ofList [("f", .forward none none)]
    pipelines := .ofList [("", { receivers := ["f"] })] }

/-- **An empty id shifts the count.** The configuration is accepted, and the head of its tag has two
segments only, so that the first segment of what a client writes is not copied into the log name. -/
theorem not_findsClient_nameless : namelessPipeline.check = .ok () ∧
    ∃ i, namelessPipeline.logInstances .fluentBit = .ok [i] ∧
      i.tag = Tag.forInstance "" "f" true ∧
      (∀ part ∈ Text.split '.' "app.web", part ≠ "") ∧
      ¬ FindsClient (i.tag.input ++ "app.web") "app.web" ∧
      Text.join "." ((Text.segments '.' (i.tag.input ++ "app.web")).drop 3) = "web" := by
  have htags : (namelessPipeline.logInstances .fluentBit).map (fun is => is.map (·.tag))
      = .ok [Tag.forInstance "" "f" true] := rfl
  have h : ∀ part ∈ Text.split '.' "app.web", part ≠ "" := by decide
  have hsegments := Tag.segments_dynamic "" "f" h
  have hweb : Text.join "."
      ((Text.segments '.' ((Tag.forInstance "" "f" true).input ++ "app.web")).drop 3) = "web" := by
    rw [hsegments]
    rfl
  obtain ⟨is, his, htag⟩ := Failing.map_eq_ok.mp htags
  obtain ⟨i, rfl, hi⟩ := List.map_eq_singleton_iff.mp htag
  refine ⟨rfl, i, his, hi, h, ?_, hi ▸ hweb⟩
  rintro ⟨-, hclient⟩
  rw [hi, hweb] at hclient
  exact absurd hclient (by decide)

end Script

end Telemetry
