import Mathlib.Data.List.Infix
import Telemetry.Proofs.Text

/-!
# Wildcards

Filters of the log engine find their records by patterns in which `*` stands for any run of
characters and every other character for itself. This file says what such patterns match:

* **`matches_literal`** — a pattern without a wildcard matches itself only.
* **`matches_open`** — a pattern whose only wildcard is its last character matches what begins with
  the rest of it.
* **`exists_extension_iff`** — a text can be continued to one that a pattern matches exactly if it
  agrees with the pattern up to the first wildcard, as far as both go.
-/

namespace Telemetry.Wildcard

/-- Whether a pattern matches a text. -/
def matchesChars : List Char → List Char → Bool
  | [], cs => cs.isEmpty
  | p :: ps, cs =>
    if p = '*' then cs.tails.any (matchesChars ps)
    else cs.head? = some p && matchesChars ps cs.tail

/-- A pattern matches a text. -/
def Matches (pattern text : String) : Prop :=
  matchesChars pattern.toList text.toList = true

instance (pattern text : String) : Decidable (Matches pattern text) :=
  inferInstanceAs (Decidable (_ = true))

/-! ## One character of a pattern -/

theorem matchesChars_nil {cs : List Char} : matchesChars [] cs = true ↔ cs = [] :=
  List.isEmpty_iff

/-- A wildcard takes a run of characters, and the rest of the pattern matches what follows. -/
theorem matchesChars_star {ps cs : List Char} :
    matchesChars ('*' :: ps) cs = true ↔
      ∃ run rest, cs = run ++ rest ∧ matchesChars ps rest = true := by
  rw [matchesChars, if_pos rfl, List.any_eq_true]
  constructor
  · rintro ⟨rest, hrest, h⟩
    obtain ⟨run, rfl⟩ := (List.mem_tails rest cs).mp hrest
    exact ⟨run, rest, rfl, h⟩
  · rintro ⟨run, rest, rfl, h⟩
    exact ⟨rest, (List.mem_tails _ _).mpr (List.suffix_append _ _), h⟩

/-- Every other character takes itself. -/
theorem matchesChars_cons {p : Char} (hp : p ≠ '*') {ps cs : List Char} :
    matchesChars (p :: ps) cs = true ↔ ∃ rest, cs = p :: rest ∧ matchesChars ps rest = true := by
  rw [matchesChars, if_neg hp]
  cases cs with
  | nil => simp
  | cons c cs => simp [and_assoc]

/-! ## Patterns with a fixed beginning -/

/-- What stands before the first wildcard is matched by itself. -/
theorem matchesChars_append {us : List Char} (hu : '*' ∉ us) {ps cs : List Char} :
    matchesChars (us ++ ps) cs = true ↔ ∃ rest, cs = us ++ rest ∧ matchesChars ps rest = true := by
  induction us generalizing cs with
  | nil => simp
  | cons u us ih =>
      obtain ⟨hne, hus⟩ := not_or.mp (mt List.mem_cons.mpr hu)
      rw [List.cons_append, matchesChars_cons (Ne.symm hne)]
      constructor
      · rintro ⟨rest, rfl, h⟩
        obtain ⟨rest', rfl, h'⟩ := (ih hus).mp h
        exact ⟨rest', rfl, h'⟩
      · rintro ⟨rest, rfl, h⟩
        exact ⟨us ++ rest, rfl, (ih hus).mpr ⟨rest, rfl, h⟩⟩

theorem matchesChars_iff_eq {us : List Char} (hu : '*' ∉ us) {cs : List Char} :
    matchesChars us cs = true ↔ cs = us := by
  have hsplit : matchesChars (us ++ []) cs = true ↔ _ := matchesChars_append hu
  rw [List.append_nil] at hsplit
  rw [hsplit]
  simp [matchesChars_nil]

/-- **A pattern without a wildcard matches itself only.** -/
theorem matches_literal {pattern text : String} (h : '*' ∉ pattern.toList) :
    Matches pattern text ↔ text = pattern := by
  rw [Matches, matchesChars_iff_eq h, String.toList_inj]

/-- **A pattern that ends in its only wildcard matches what begins with the rest of it.** -/
theorem matches_open {head text : String} (h : '*' ∉ head.toList) :
    Matches (head ++ "*") text ↔ head.toList <+: text.toList := by
  have hstar : ∀ rest, matchesChars ['*'] rest = true := by
    intro rest
    exact matchesChars_star.mpr ⟨rest, [], by simp, rfl⟩
  rw [Matches, String.toList_append]
  show matchesChars (head.toList ++ ['*']) _ = true ↔ _
  rw [matchesChars_append h]
  constructor
  · rintro ⟨rest, hrest, -⟩
    exact ⟨rest, hrest.symm⟩
  · rintro ⟨rest, hrest⟩
    exact ⟨rest, hrest.symm, hstar rest⟩

/-! ## Texts that can be continued -/

/-- What a pattern says before its first wildcard. -/
def fixedHead (pattern : List Char) : List Char :=
  pattern.takeWhile (· ≠ '*')

theorem fixedHead_of_notMem {ps : List Char} (h : '*' ∉ ps) : fixedHead ps = ps :=
  Text.takeWhile_ne_self h

theorem fixedHead_append {us : List Char} (h : '*' ∉ us) (rest : List Char) :
    fixedHead (us ++ '*' :: rest) = us :=
  Text.takeWhile_ne_append h rest

/-- A pattern with a wildcard falls into what stands before the first one, and the rest. -/
theorem exists_eq_fixedHead {ps : List Char} (h : '*' ∈ ps) :
    '*' ∉ fixedHead ps ∧ ∃ rest, ps = fixedHead ps ++ '*' :: rest := by
  induction ps with
  | nil => exact nomatch h
  | cons p ps ih =>
      by_cases hp : p = '*'
      · have hnil : fixedHead (p :: ps) = [] := List.takeWhile_cons_of_neg (by simpa using hp)
        rw [hnil, hp]
        exact ⟨List.not_mem_nil, ps, rfl⟩
      · have hcons : fixedHead (p :: ps) = p :: fixedHead ps :=
          List.takeWhile_cons_of_pos (by simpa using hp)
        obtain ⟨hhead, rest, hps⟩ := ih ((List.mem_cons.mp h).resolve_left (Ne.symm hp))
        rw [hcons]
        refine ⟨?_, rest, congrArg (p :: ·) hps⟩
        rintro (_ | ⟨_, hm⟩)
        · exact hp rfl
        · exact hhead hm

/-- Every pattern matches the text that it is without its wildcards. -/
theorem matchesChars_filter (ps : List Char) :
    matchesChars ps (ps.filter (· ≠ '*')) = true := by
  induction ps with
  | nil => rfl
  | cons p ps ih =>
      by_cases hp : p = '*'
      · subst hp
        exact matchesChars_star.mpr ⟨[], _, rfl, ih⟩
      · rw [List.filter_cons_of_pos (by simpa using hp)]
        exact (matchesChars_cons hp).mpr ⟨_, rfl, ih⟩

/-- **A text can be continued to one that a pattern matches** exactly if one of the text and the
fixed head of the pattern begins with the other; it has to be the head if there is no wildcard. -/
theorem exists_extension_iff {ps cs : List Char} :
    (∃ more, matchesChars ps (cs ++ more) = true) ↔
      cs <+: fixedHead ps ∨ ('*' ∈ ps ∧ fixedHead ps <+: cs) := by
  by_cases h : '*' ∈ ps
  · obtain ⟨hhead, rest, hps⟩ := exists_eq_fixedHead h
    have hsplit : ∀ text, matchesChars ps text = true ↔ ∃ tail, text = fixedHead ps ++ tail ∧
        matchesChars ('*' :: rest) tail = true := by
      intro text
      have happend : matchesChars (fixedHead ps ++ '*' :: rest) text = true ↔ _ :=
        matchesChars_append hhead
      rwa [← hps] at happend
    simp only [hsplit, h, true_and]
    constructor
    · rintro ⟨more, tail, heq, -⟩
      refine List.prefix_or_prefix_of_prefix (List.prefix_append cs more) ?_
      rw [heq]
      exact List.prefix_append _ _
    · -- the rest of the pattern is matched by itself without its wildcards
      rintro (⟨v, hv⟩ | ⟨v, hv⟩)
      · refine ⟨v ++ rest.filter (· ≠ '*'), rest.filter (· ≠ '*'), ?_, ?_⟩
        · rw [← hv, List.append_assoc]
        · exact matchesChars_star.mpr ⟨[], _, rfl, matchesChars_filter rest⟩
      · refine ⟨rest.filter (· ≠ '*'), v ++ rest.filter (· ≠ '*'), ?_, ?_⟩
        · rw [← hv, List.append_assoc]
        · exact matchesChars_star.mpr ⟨v, _, rfl, matchesChars_filter rest⟩
  · simp only [matchesChars_iff_eq h, fixedHead_of_notMem h, h, false_and, or_false]
    exact Iff.rfl

end Telemetry.Wildcard
