import Mathlib.Data.Set.Lattice
import Mathlib.Order.CompletePartialOrder
import Telemetry.Proofs.Digest
import Telemetry.Proofs.Isolation

/-!
# Families of dynamic tags

An input whose clients extend its tag has a whole family of tags: its head, and behind it whatever a
client writes. The ids in the head may be any texts, and the clients' part too. This file says that
the families of two inputs stay apart.

* **`dynamicInput_append_inj`** (with the heads of tags) — a tag tells the parts of its head, because
  no part has a dot.
* **`taken_forInstance`** — an output takes those tags of the family that are one line.
* **`dynamic_families_disjoint`** — no head begins with the other, no tag is in both families, and
  none is taken by the expressions of both.
-/

namespace Telemetry.Tag

/-- The tags that an input gives to its records if clients extend its tag. -/
def family (t : Tag) : Set String :=
  {text | ∃ client, text = t.input ++ client}

/-- The tags that an output takes by the expression of one tag. -/
def taken (t : Tag) : Set String :=
  {text | Regex.Matches (alternation [t]) text}

theorem mem_family {t : Tag} {text : String} : text ∈ t.family ↔ t.input.toList <+: text.toList := by
  constructor
  · rintro ⟨client, rfl⟩
    rw [String.toList_append]
    exact List.prefix_append _ _
  · rintro ⟨client, h⟩
    refine ⟨String.ofList client, String.toList_injective ?_⟩
    rw [String.toList_append, String.toList_ofList, h]

/-- **An output takes the tags of the family** with which it was generated, as far as they are one
line behind the head. -/
theorem taken_forInstance (pipeline receiver : String) :
    (forInstance pipeline receiver true).taken
      = {text | ∃ client, OneLine client ∧
          text = (forInstance pipeline receiver true).input ++ client} := by
  have hreads : ∀ t ∈ [forInstance pipeline receiver true],
      Regex.ReadsAs t.matchRegex.toList t.items :=
    List.forall_mem_singleton.mpr (readsAs_forInstance pipeline receiver true)
  have hitems : (forInstance pipeline receiver true).items
      = (dynamicHead pipeline receiver).toList.map .char ++ [.char '.', .star .dot] := by
    simp [items, forInstance]
  have hinput : (forInstance pipeline receiver true).input.toList
      = (dynamicHead pipeline receiver).toList ++ ['.'] := by
    simp [forInstance]
  ext text
  show Regex.Matches _ text ↔ _
  rw [matches_alternation (List.cons_ne_nil _ _) hreads]
  simp only [List.mem_singleton, exists_eq_left, hitems, Regex.catAll_anySuffix]
  constructor
  · rintro ⟨client, htext, hline⟩
    refine ⟨String.ofList client, ?_, String.toList_injective ?_⟩
    · rwa [OneLine, String.toList_ofList]
    · rw [htext, String.toList_append, hinput, String.toList_ofList, List.append_assoc]
      rfl
  · rintro ⟨client, hline, rfl⟩
    refine ⟨client.toList, ?_, hline⟩
    rw [String.toList_append, hinput, List.append_assoc]
    rfl

theorem taken_subset_family (pipeline receiver : String) :
    (forInstance pipeline receiver true).taken ⊆ (forInstance pipeline receiver true).family := by
  rw [taken_forInstance]
  rintro text ⟨client, -, rfl⟩
  exact ⟨client, rfl⟩

/-- Families with a common tag belong to base tags of one hash. -/
theorem contentHash_eq_of_mem_family {pipeline receiver pipeline' receiver' text : String}
    (h : text ∈ (forInstance pipeline receiver true).family)
    (h' : text ∈ (forInstance pipeline' receiver' true).family) :
    contentHash (pipeline ++ "." ++ receiver) = contentHash (pipeline' ++ "." ++ receiver') := by
  obtain ⟨client, h⟩ := mem_family.mp h
  obtain ⟨client', h'⟩ := mem_family.mp h'
  exact (dynamicInput_append_inj (h.trans h'.symm)).2.2.1

/-- **The families of dynamic tags stay apart** if the content hash tells the base tags apart. Neither
head begins with the other; so no tag is in both families, whatever clients write behind the heads,
and none is taken by the expressions of both. -/
theorem dynamic_families_disjoint {pipeline receiver pipeline' receiver' : String}
    (hash : contentHash (pipeline ++ "." ++ receiver)
      ≠ contentHash (pipeline' ++ "." ++ receiver')) :
    ¬ (forInstance pipeline receiver true).input.toList
        <+: (forInstance pipeline' receiver' true).input.toList ∧
      ¬ (forInstance pipeline' receiver' true).input.toList
        <+: (forInstance pipeline receiver true).input.toList ∧
      Disjoint (forInstance pipeline receiver true).family
        (forInstance pipeline' receiver' true).family ∧
      Disjoint (forInstance pipeline receiver true).taken
        (forInstance pipeline' receiver' true).taken := by
  have hfamilies : Disjoint (forInstance pipeline receiver true).family
      (forInstance pipeline' receiver' true).family := by
    rw [Set.disjoint_left]
    intro text h h'
    exact hash (contentHash_eq_of_mem_family h h')
  refine ⟨?_, ?_, hfamilies, ?_⟩
  · intro hbegins
    have hsame := contentHash_eq_of_prefix hbegins
    exact hash hsame
  · intro hbegins
    have hsame := contentHash_eq_of_prefix hbegins
    exact hash hsame.symm
  · exact hfamilies.mono (taken_subset_family pipeline receiver)
      (taken_subset_family pipeline' receiver')

/-- Ids that look alike when their dots are replaced: the families differ in the hash alone. -/
theorem dynamic_families_disjoint_dottedIds :
    segment "a.b" = segment "a_b" ∧ contentHash "a.b.c" ≠ contentHash "a_b.c" ∧
      Disjoint (forInstance "a.b" "c" true).family (forInstance "a_b" "c" true).family ∧
      Disjoint (forInstance "a.b" "c" true).taken (forInstance "a_b" "c" true).taken := by
  have hash : contentHash ("a.b" ++ "." ++ "c") ≠ contentHash ("a_b" ++ "." ++ "c") := by
    refine fun h => absurd (congrArg String.toList h) ?_
    rw [toList_contentHash, toList_contentHash]
    decide
  obtain ⟨-, -, hfamilies, htaken⟩ := dynamic_families_disjoint hash
  exact ⟨by decide, hash, hfamilies, htaken⟩

end Telemetry.Tag
