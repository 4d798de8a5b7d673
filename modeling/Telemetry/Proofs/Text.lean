import Mathlib.Data.List.Nodup
import Mathlib.Data.List.Pairwise
import Mathlib.Data.List.TakeWhile
import Telemetry.Text.Replace

/-!
# Joined texts can be taken apart

The names that a compilation makes up are ids and numbers joined by dots. This file says when such a
joined text determines its parts:

* **`append_dot_inj`** — texts that are cut at their last dot have equal parts if they are equal.
* **`decimal_injective`** — a number is determined by its decimal digits, none of which is a dot.
* **`nodup_stemNames`** — names made from distinct stems are distinct, unless one stem is another
  with a dot and an end after it.
-/

namespace Telemetry.Text

/-! ## Decimal digits -/

/-- The decimal text of a number holds digits only. -/
theorem isDigit_of_mem_decimal {n : Nat} {c : Char} (h : c ∈ (decimal n).toList) :
    c.isDigit = true := by
  rw [decimal, String.toList_ofList] at h
  exact Nat.isDigit_of_mem_toDigits (by omega) (by omega) h

/-- No decimal text has a character that is no digit. -/
theorem notMem_decimal {c : Char} (hc : c.isDigit = false) (n : Nat) : c ∉ (decimal n).toList := by
  intro h
  rw [isDigit_of_mem_decimal h] at hc
  exact Bool.noConfusion hc

/-- No decimal text has a dot. -/
theorem dot_notMem_decimal (n : Nat) : '.' ∉ (decimal n).toList :=
  notMem_decimal rfl n

/-- Different numbers have different decimal texts. -/
theorem decimal_injective {m n : Nat} (h : decimal m = decimal n) : m = n := by
  have hd : Nat.toDigits 10 m = Nat.toDigits 10 n := String.ofList_injective h
  rw [← Nat.ofDigitChars_toDigits (b := 10) (n := m) (by omega) (by omega), hd,
    Nat.ofDigitChars_toDigits (by omega) (by omega)]

/-- A decimal text begins with a digit. -/
theorem decimal_ne_of_head {n : Nat} {s : String} {c : Char} {cs : List Char}
    (hs : s.toList = c :: cs) (hc : c.isDigit = false) : decimal n ≠ s := by
  intro h
  have hm : c ∈ (decimal n).toList := by
    rw [h, hs]
    exact List.mem_cons_self
  rw [isDigit_of_mem_decimal hm] at hc
  exact Bool.noConfusion hc

/-! ## Cutting at a separator -/

theorem decide_ne_of_notMem {d : Char} {cs : List Char} (h : d ∉ cs) :
    ∀ c ∈ cs, decide (c ≠ d) = true := by
  intro c hc
  refine decide_eq_true ?_
  rintro rfl
  exact h hc

/-- There is nothing to cut off without the character. -/
theorem takeWhile_ne_self {d : Char} {cs : List Char} (h : d ∉ cs) :
    cs.takeWhile (· ≠ d) = cs :=
  List.takeWhile_eq_self_iff.mpr (decide_ne_of_notMem h)

/-- What stands before the first occurrence of a character. -/
theorem takeWhile_ne_append {d : Char} {us : List Char} (h : d ∉ us) (rest : List Char) :
    (us ++ d :: rest).takeWhile (· ≠ d) = us := by
  rw [List.takeWhile_append_of_pos (decide_ne_of_notMem h),
    List.takeWhile_cons_of_neg (by simp), List.append_nil]

/-- What is split at a character does not have it. -/
theorem notMem_of_mem_splitOn {d : Char} {cs part : List Char} (h : part ∈ cs.splitOn d) :
    d ∉ part := by
  induction cs generalizing part with
  | nil =>
      rw [List.splitOn_nil] at h
      rw [List.mem_singleton.mp h]
      exact List.not_mem_nil
  | cons c cs ih =>
      rw [List.splitOn_cons_eq_if_modifyHead] at h
      split at h
      · rcases List.mem_cons.mp h with rfl | h
        · exact List.not_mem_nil
        · exact ih h
      · rename_i hc
        obtain ⟨first, rest, hcs⟩ := List.exists_cons_of_ne_nil (List.splitOn_ne_nil d cs)
        rw [hcs, List.modifyHead_cons] at h
        rcases List.mem_cons.mp h with rfl | h
        · intro hm
          rcases List.mem_cons.mp hm with rfl | hm
          · exact hc (beq_self_eq_true d)
          · exact ih (hcs ▸ List.mem_cons_self) hm
        · exact ih (hcs ▸ List.mem_cons_of_mem _ h)

/-- Lists that are cut at the first occurrence of a member have equal parts if they are equal. -/
theorem append_cons_inj_of_first {α : Type} {d : α} {us vs xs ys : List α} (hu : d ∉ us)
    (hv : d ∉ vs) (h : us ++ d :: xs = vs ++ d :: ys) : us = vs ∧ xs = ys := by
  induction us generalizing vs with
  | nil =>
      cases vs with
      | nil => exact ⟨rfl, (List.cons.inj h).2⟩
      | cons v vs =>
          obtain ⟨rfl, -⟩ := List.cons.inj h
          exact absurd List.mem_cons_self hv
  | cons u us ih =>
      cases vs with
      | nil =>
          obtain ⟨rfl, -⟩ := List.cons.inj h
          exact absurd List.mem_cons_self hu
      | cons v vs =>
          obtain ⟨rfl, ht⟩ := List.cons.inj h
          obtain ⟨rfl, hx⟩ := ih (fun hm => hu (List.mem_cons_of_mem _ hm))
            (fun hm => hv (List.mem_cons_of_mem _ hm)) ht
          exact ⟨rfl, hx⟩

/-- Lists that are cut at the last occurrence of a member have equal parts if they are equal. -/
theorem append_cons_inj_of_last {α : Type} {d : α} {xs ys us vs : List α} (hu : d ∉ us)
    (hv : d ∉ vs) (h : xs ++ d :: us = ys ++ d :: vs) : xs = ys ∧ us = vs := by
  have hr : us.reverse ++ d :: xs.reverse = vs.reverse ++ d :: ys.reverse := by
    simpa using congrArg List.reverse h
  obtain ⟨h1, h2⟩ := append_cons_inj_of_first (fun hm => hu (List.mem_reverse.mp hm))
    (fun hm => hv (List.mem_reverse.mp hm)) hr
  exact ⟨List.reverse_injective h2, List.reverse_injective h1⟩

/-- The characters of two texts joined by a separator of one character. -/
theorem toList_append_sep {sep : String} {d : Char} (hs : sep.toList = [d]) (a u : String) :
    (a ++ sep ++ u).toList = a.toList ++ d :: u.toList := by
  rw [String.toList_append, String.toList_append, hs, List.append_assoc]
  rfl

/-- Texts whose first parts do not have the separator are equal only part by part. -/
theorem append_sep_inj_of_first {sep a b u v : String} {d : Char} (hs : sep.toList = [d])
    (ha : d ∉ a.toList) (hb : d ∉ b.toList) (h : a ++ sep ++ u = b ++ sep ++ v) :
    a = b ∧ u = v := by
  have hl := congrArg String.toList h
  rw [toList_append_sep hs, toList_append_sep hs] at hl
  obtain ⟨h1, h2⟩ := append_cons_inj_of_first ha hb hl
  exact ⟨String.toList_injective h1, String.toList_injective h2⟩

/-- Texts whose last parts do not have the separator are equal only part by part. -/
theorem append_sep_inj_of_last {sep a b u v : String} {d : Char} (hs : sep.toList = [d])
    (hu : d ∉ u.toList) (hv : d ∉ v.toList) (h : a ++ sep ++ u = b ++ sep ++ v) :
    a = b ∧ u = v := by
  have hl := congrArg String.toList h
  rw [toList_append_sep hs, toList_append_sep hs] at hl
  obtain ⟨h1, h2⟩ := append_cons_inj_of_last hu hv hl
  exact ⟨String.toList_injective h1, String.toList_injective h2⟩

/-- **Cutting at the last dot.** Texts whose last parts have no dot are equal only part by part. -/
theorem append_dot_inj {a b u v : String} (hu : '.' ∉ u.toList) (hv : '.' ∉ v.toList)
    (h : a ++ "." ++ u = b ++ "." ++ v) : a = b ∧ u = v :=
  append_sep_inj_of_last rfl hu hv h

/-- A text is not the same text with something after it. -/
theorem ne_append_dot (a u : String) : a ≠ a ++ "." ++ u := by
  intro h
  have hl := congrArg (fun s : String => s.toList.length) h
  simp at hl

/-! ## Names made from stems -/

/-- The names made from a stem: perhaps the stem itself, and the stem with each of some ends. -/
def stemNames (stem : String) (whole : Bool) (ends : List String) : List String :=
  (if whole then [stem] else []) ++ ends.map (stem ++ "." ++ ·)

theorem mem_stemNames {stem name : String} {whole : Bool} {ends : List String} :
    name ∈ stemNames stem whole ends ↔
      (whole = true ∧ name = stem) ∨ ∃ u ∈ ends, name = stem ++ "." ++ u := by
  cases whole <;> simp [stemNames, eq_comm]

/-- One stem gives no name twice. -/
theorem nodup_stemNames_one {stem : String} {whole : Bool} {ends : List String}
    (hn : ends.Nodup) (hd : ∀ u ∈ ends, '.' ∉ u.toList) : (stemNames stem whole ends).Nodup := by
  have he : (ends.map (stem ++ "." ++ ·)).Nodup := by
    refine (List.nodup_map_iff_inj_on hn).mpr ?_
    intro u hu v hv h
    exact (append_dot_inj (hd u hu) (hd v hv) h).2
  cases whole with
  | false => exact he
  | true =>
      refine List.nodup_cons.mpr ⟨?_, he⟩
      intro h
      obtain ⟨u, -, hu⟩ := List.mem_map.mp h
      exact ne_append_dot stem u hu.symm

/-- **Names made from distinct stems are distinct**, unless one stem is another with an end. -/
theorem nodup_stemNames {α : Type} {as : List α} {stem : α → String} {whole : α → Bool}
    {ends : α → List String} (hs : (as.map stem).Nodup) (hn : ∀ a ∈ as, (ends a).Nodup)
    (hd : ∀ a ∈ as, ∀ u ∈ ends a, '.' ∉ u.toList) :
    (as.flatMap fun a => stemNames (stem a) (whole a) (ends a)).Nodup ↔
      ∀ a ∈ as, ∀ b ∈ as, whole a = true → ∀ u ∈ ends b, stem a ≠ stem b ++ "." ++ u := by
  have hp : as.Pairwise fun a b => stem a ≠ stem b := List.pairwise_map.mp hs
  rw [List.nodup_flatMap]
  constructor
  · rintro ⟨-, hdis⟩ a ha b hb hw u hu he
    -- the name of the stem `stem a` itself is one that `stem b` gives too
    have hma : stem a ∈ stemNames (stem a) (whole a) (ends a) := mem_stemNames.mpr (.inl ⟨hw, rfl⟩)
    have hmb : stem a ∈ stemNames (stem b) (whole b) (ends b) :=
      mem_stemNames.mpr (.inr ⟨u, hu, he⟩)
    have hne : a ≠ b := by
      rintro rfl
      exact ne_append_dot _ _ he
    have hab : (stemNames (stem a) (whole a) (ends a)).Disjoint
        (stemNames (stem b) (whole b) (ends b)) := by
      have hsym : Std.Symm (Function.onFun List.Disjoint
          fun a => stemNames (stem a) (whole a) (ends a)) := ⟨fun _ _ h => List.disjoint_symm h⟩
      exact hdis.forall ha hb hne
    exact hab hma hmb
  · intro h
    refine ⟨fun a ha => nodup_stemNames_one (hn a ha) (hd a ha), ?_⟩
    refine hp.imp_of_mem ?_
    intro a b ha hb hne name hma hmb
    rcases mem_stemNames.mp hma with ⟨hwa, rfl⟩ | ⟨u, hu, rfl⟩
    · rcases mem_stemNames.mp hmb with ⟨-, he⟩ | ⟨v, hv, he⟩
      · exact hne he
      · exact h a ha b hb hwa v hv he
    · rcases mem_stemNames.mp hmb with ⟨hwb, he⟩ | ⟨v, hv, he⟩
      · exact h b hb a ha hwb u hu he.symm
      · exact hne (append_dot_inj (hd a ha u hu) (hd b hb v hv) he).1

end Telemetry.Text
