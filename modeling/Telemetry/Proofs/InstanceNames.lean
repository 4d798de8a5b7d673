import Telemetry.Proofs.Instance
import Telemetry.Proofs.Text

/-!
# Names come from base tags

Every name that an instance defines is its base tag, or its base tag with a dot and an end that has
no further dot: the number of a processor, or a fixed word. Line-joining parsers have one more word
in front.

* **`names_parsers`**, **`names_lineParsers`** — the names of an instance as `Text.stemNames`.
* **`parserUses_defined`**, **`lineParserUses_defined`** — an instance uses no names but its own and
  those of built-in parsers.
* **`nodup_parsers_iff`**, **`nodup_lineParsers_iff`** — among instances with distinct base tags, two
  names are equal only where one base tag is another with an end.
-/

namespace Telemetry

open Text (stemNames)

namespace LogInstance

/-- The numbers of the processors with a property, in decimal. -/
def numbers (i : LogInstance) (q : LogProcessor → Bool) : List String :=
  (i.processors.zipIdx.filter fun x => q x.1.processor).map fun x => Text.decimal x.2

/-- Whether the parser of the receiver bears the base tag itself. -/
def parsesByTag (i : LogInstance) : Bool :=
  match i.receiver with
  | .configured (.syslog _ _ _) => true
  | _ => false

/-- What stands behind the base tag in the names of the other parsers. -/
def parserEnds (i : LogInstance) : List String :=
  (match i.receiver with
    | .configured (.eventLog _) => ["timestamp_parser"]
    | _ => [])
  ++ i.numbers (·.hasParser)

/-- Whether the receiver joins lines. -/
def joinsInput (i : LogInstance) : Bool :=
  match i.receiver with
  | .tail _ rules => !rules.isEmpty
  | _ => false

/-- What stands behind the base tag in the names of line-joining parsers of processors. -/
def lineParserEnds (i : LogInstance) : List String :=
  i.numbers fun p => p.lineRules?.isSome

/-! ## Numbers -/

theorem mem_numbers {i : LogInstance} {q : LogProcessor → Bool} {u : String} :
    u ∈ i.numbers q ↔
      ∃ k b, i.processors[k]? = some b ∧ q b.processor = true ∧ u = Text.decimal k := by
  constructor
  · intro h
    obtain ⟨⟨b, k⟩, hx, rfl⟩ := List.mem_map.mp h
    obtain ⟨hx, hq⟩ := List.mem_filter.mp hx
    exact ⟨k, b, List.mem_zipIdx_iff_getElem?.mp hx, hq, rfl⟩
  · rintro ⟨k, b, hk, hq, rfl⟩
    refine List.mem_map.mpr ⟨(b, k), List.mem_filter.mpr ⟨?_, hq⟩, rfl⟩
    exact List.mem_zipIdx_iff_getElem?.mpr hk

/-- No two processors have one number. -/
theorem numbers_nodup (i : LogInstance) (q : LogProcessor → Bool) : (i.numbers q).Nodup := by
  have hpos : (i.processors.zipIdx.map Prod.snd).Nodup := by
    rw [List.zipIdx_map_snd]
    exact List.nodup_range' _
  have hall : (i.processors.zipIdx.map fun x => Text.decimal x.2).Nodup := by
    have h := hpos.map fun _ _ h => Text.decimal_injective h
    rwa [List.map_map] at h
  exact hall.sublist (List.filter_sublist.map _)

theorem dot_notMem_numbers {i : LogInstance} {q : LogProcessor → Bool} {u : String}
    (h : u ∈ i.numbers q) : '.' ∉ u.toList := by
  obtain ⟨k, -, -, -, rfl⟩ := mem_numbers.mp h
  exact Text.dot_notMem_decimal k

/-- No two parsers of an instance have one end. -/
theorem parserEnds_nodup (i : LogInstance) : i.parserEnds.Nodup := by
  rw [parserEnds]
  split
  · refine List.nodup_cons.mpr ⟨?_, i.numbers_nodup _⟩
    intro h
    obtain ⟨k, -, -, -, hk⟩ := mem_numbers.mp h
    exact Text.decimal_ne_of_head (c := 't') (by rfl) (by decide) hk.symm
  · exact i.numbers_nodup _

theorem dot_notMem_parserEnds {i : LogInstance} {u : String} (h : u ∈ i.parserEnds) :
    '.' ∉ u.toList := by
  rw [parserEnds] at h
  split at h
  · rcases List.mem_cons.mp h with rfl | h
    · decide
    · exact dot_notMem_numbers h
  · exact dot_notMem_numbers h

/-! ## The names that an instance defines -/

/-- Names that the processors with a property give by their numbers. -/
theorem flatMap_uid (i : LogInstance) (q : LogProcessor → Bool) (f : String → String) :
    (i.processors.zipIdx.flatMap fun x => if q x.1.processor then [f (i.uid x.2)] else [])
      = ((i.numbers q).map (i.tag.base ++ "." ++ ·)).map f := by
  unfold numbers uid
  generalize i.processors.zipIdx = xs
  induction xs with
  | nil => rfl
  | cons x xs ih =>
      rw [List.flatMap_cons, ih, List.filter_cons]
      by_cases hq : q x.1.processor = true
      · rw [if_pos hq, if_pos hq]
        rfl
      · rw [if_neg hq, if_neg hq]
        rfl

/-- **The parsers of an instance** are named by its base tag. -/
theorem names_parsers (i : LogInstance) :
    i.names.parsers = stemNames i.tag.base i.parsesByTag i.parserEnds := by
  have hp : (i.processors.zipIdx.flatMap fun x => (x.1.processor.names (i.uid x.2)).parsers)
      = (i.numbers (·.hasParser)).map (i.tag.base ++ "." ++ ·) := by
    have h := i.flatMap_uid (·.hasParser) id
    rw [List.map_id] at h
    rw [← h]
    refine List.flatMap_congr ?_
    exact fun x _ => x.1.processor.names_parsers (i.uid x.2)
  have hn : i.names.parsers = (i.receiver.names i.tag).parsers
      ++ (i.numbers (·.hasParser)).map (i.tag.base ++ "." ++ ·) := by
    rw [← hp]
    simp [names, Names.all, List.flatMap_map]
  rw [hn]
  unfold stemNames parsesByTag parserEnds LogReceiver.names
  cases hr : i.receiver with
  | tail s rules => rfl
  | configured config =>
      cases config with
      | syslog transport host port =>
          have hi : i.tag.input = i.tag.base := by
            rw [LogInstance.tag]
            rw [hr]
            rfl
          rw [← hi]
          rfl
      | eventLog channels => simp [String.append_assoc]
      | _ => rfl

/-- **The line-joining parsers of an instance** are named by its base tag, behind one more word. -/
theorem names_lineParsers (i : LogInstance) :
    i.names.lineParsers
      = (stemNames i.tag.base i.joinsInput i.lineParserEnds).map ("multiline." ++ ·) := by
  have hp : (i.processors.zipIdx.flatMap fun x => (x.1.processor.names (i.uid x.2)).lineParsers)
      = (i.lineParserEnds.map (i.tag.base ++ "." ++ ·)).map ("multiline." ++ ·) := by
    rw [lineParserEnds]
    rw [← i.flatMap_uid _ ("multiline." ++ ·)]
    refine List.flatMap_congr ?_
    exact fun x _ => x.1.processor.names_lineParsers (i.uid x.2)
  have hn : i.names.lineParsers = (i.receiver.names i.tag).lineParsers
      ++ (i.lineParserEnds.map (i.tag.base ++ "." ++ ·)).map ("multiline." ++ ·) := by
    rw [← hp]
    simp [names, Names.all, List.flatMap_map]
  rw [hn]
  unfold stemNames joinsInput LogReceiver.names FileSource.names
  cases hr : i.receiver with
  | tail s rules => cases rules <;> simp
  | configured config => cases config <;> rfl

/-! ## The names that an instance uses -/

/-- **An instance uses its own parsers** and those that are built in. -/
theorem parserUses_defined {i : LogInstance} {n : String} (h : n ∈ i.names.parserUses) :
    n ∈ i.names.parsers ∨ ∃ b ∈ i.processors, b.processor = .builtinParser n := by
  rcases List.mem_append.mp h with h | h
  · rw [LogReceiver.names_parserUses] at h
    exact .inl (List.mem_append_left _ h)
  · obtain ⟨ns, hns, h⟩ := List.mem_flatMap.mp h
    obtain ⟨⟨b, k⟩, hb, rfl⟩ := List.mem_map.mp hns
    rcases LogProcessor.mem_parserUses h with h | h
    · exact .inl (List.mem_append_right _ (List.mem_flatMap.mpr ⟨_, hns, h⟩))
    · exact .inr ⟨b, List.mem_of_getElem? (List.mem_zipIdx_iff_getElem?.mp hb), h⟩

/-- **An instance uses its own line-joining parsers.** -/
theorem lineParserUses_defined {i : LogInstance} {n : String}
    (h : n ∈ i.names.lineParserUses) : n ∈ i.names.lineParsers := by
  rcases List.mem_append.mp h with h | h
  · exact List.mem_append_left _ (LogReceiver.mem_lineParserUses h)
  · obtain ⟨ns, hns, h⟩ := List.mem_flatMap.mp h
    obtain ⟨⟨b, k⟩, hb, rfl⟩ := List.mem_map.mp hns
    rw [LogProcessor.names_lineParserUses] at h
    exact List.mem_append_right _ (List.mem_flatMap.mpr ⟨_, hns, h⟩)

/-- The position database of an instance is that of its receiver. -/
theorem names_databases (i : LogInstance) :
    i.names.databases = (i.receiver.names i.tag).databases := by
  have hp : (Names.all (i.processors.zipIdx.map fun x =>
      x.1.processor.names (i.uid x.2))).databases = [] := by
    refine List.flatMap_eq_nil_iff.mpr ?_
    intro ns hns
    obtain ⟨⟨b, k⟩, -, rfl⟩ := List.mem_map.mp hns
    exact b.processor.names_databases (i.uid k)
  rw [names, Names.append_databases, hp, List.append_nil]

/-! ## Distinct names -/

/-- **The parsers of instances with distinct base tags** bear distinct names, unless a receiver's
parser has a base tag for its name that is another's with an end. -/
theorem nodup_parsers_iff {is : List LogInstance} (hb : (baseTags is).Nodup) :
    (is.flatMap (·.names.parsers)).Nodup ↔
      ∀ i ∈ is, ∀ j ∈ is, i.parsesByTag = true → ∀ u ∈ j.parserEnds,
        i.tag.base ≠ j.tag.base ++ "." ++ u := by
  have hn : is.flatMap (·.names.parsers)
      = is.flatMap fun i => stemNames i.tag.base i.parsesByTag i.parserEnds :=
    List.flatMap_congr fun i _ => i.names_parsers
  rw [hn]
  exact Text.nodup_stemNames hb (fun i _ => i.parserEnds_nodup)
    fun i _ u hu => dot_notMem_parserEnds hu

/-- **The line-joining parsers of instances with distinct base tags** bear distinct names, unless one
that a receiver uses has a base tag for its name that is another's with a number. -/
theorem nodup_lineParsers_iff {is : List LogInstance} (hb : (baseTags is).Nodup) :
    (is.flatMap (·.names.lineParsers)).Nodup ↔
      ∀ i ∈ is, ∀ j ∈ is, i.joinsInput = true → ∀ u ∈ j.lineParserEnds,
        i.tag.base ≠ j.tag.base ++ "." ++ u := by
  have hinj : Function.Injective ("multiline." ++ · : String → String) := by
    intro a b hab
    exact String.append_right_inj _ |>.mp hab
  have hn : is.flatMap (·.names.lineParsers)
      = (is.flatMap fun i => stemNames i.tag.base i.joinsInput i.lineParserEnds).map
        ("multiline." ++ ·) := by
    rw [List.map_flatMap]
    exact List.flatMap_congr fun i _ => i.names_lineParsers
  rw [hn, List.nodup_map_iff hinj]
  exact Text.nodup_stemNames hb (fun i _ => i.numbers_nodup fun p => p.lineRules?.isSome)
    fun i _ u hu => dot_notMem_numbers hu

/-- Where simplified instances have distinct names unless one base tag is another with an end, they
have distinct names exactly if no two of the instances clash in that way. -/
theorem nodup_iff_no_clash {is : List LogInstance} {names : List String}
    {whole : LogInstance → Bool} {ends : LogInstance → List String}
    {clash : LogInstance → LogInstance → Prop}
    (hnames : names.Nodup ↔ ∀ i ∈ is.map (·.simplify), ∀ j ∈ is.map (·.simplify),
      whole i = true → ∀ u ∈ ends j, i.tag.base ≠ j.tag.base ++ "." ++ u)
    (hclash : ∀ i ∈ is, ∀ j ∈ is, clash i j ↔
      whole i.simplify = true ∧ ∃ u ∈ ends j.simplify, i.tag.base = j.tag.base ++ "." ++ u) :
    names.Nodup ↔ ¬ ∃ i ∈ is, ∃ j ∈ is, clash i j := by
  rw [hnames]
  simp only [List.forall_mem_map, simplify_tag]
  constructor
  · rintro h ⟨i, hi, j, hj, hij⟩
    obtain ⟨hw, u, hu, he⟩ := (hclash i hi j hj).mp hij
    exact h i hi j hj hw u hu he
  · intro h i hi j hj hw u hu he
    exact h ⟨i, hi, j, hj, (hclash i hi j hj).mpr ⟨hw, u, hu, he⟩⟩

end LogInstance

end Telemetry
