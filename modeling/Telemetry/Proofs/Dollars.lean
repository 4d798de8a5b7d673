import Telemetry.Logging.Parse
import Telemetry.Metrics.Processor
import Telemetry.Proofs.Text

/-!
# Dollar signs

The collector reads a dollar sign in a text as the beginning of a reference to a variable, and two
of them as one dollar sign. So a text means what it says only if its dollar signs come in pairs.
Reading from the left, there is just one way to pair them, and a character between two parts of a
text keeps their dollar signs apart.

* **`Paired`** — the dollar signs of a text come in pairs.
* **`paired_quote`**, **`paired_replace`** — a literal of the statement language, and a text in
  which others are replaced, are no better or worse than what they are made from.
* **`paired_replaceField`** — the statements that read a field.
* **`paired_ofGlob_iff`** — the expression for a pattern ends with a dollar sign of its own.
-/

namespace Telemetry

/-! ## Pairs -/

/-- Pairs dollar signs from the left; one may be waiting for its partner. -/
def pairs : (waiting : Bool) → List Char → Bool
  | waiting, [] => !waiting
  | false, c :: cs => pairs (c = '$') cs
  | true, c :: cs => c = '$' && pairs false cs

/-- The dollar signs of a text come in pairs. -/
def Paired (s : String) : Prop :=
  pairs false s.toList = true

instance : DecidablePred Paired :=
  fun _ => inferInstanceAs (Decidable (_ = true))

theorem pairs_of_ne {c : Char} (hc : c ≠ '$') (waiting : Bool) (cs : List Char) :
    pairs waiting (c :: cs) = (!waiting && pairs false cs) := by
  cases waiting <;> simp [pairs, hc]

/-- One more character in front of two texts whose dollar signs pair alike. -/
theorem pairs_cons_congr {as bs : List Char} (h : ∀ waiting, pairs waiting as = pairs waiting bs)
    (waiting : Bool) (c : Char) : pairs waiting (c :: as) = pairs waiting (c :: bs) := by
  cases waiting with
  | false => exact h _
  | true => rw [pairs, pairs, h]

/-- Another character keeps dollar signs apart. -/
theorem pairs_append_cons {d : Char} (hd : d ≠ '$') (waiting : Bool) (as bs : List Char) :
    pairs waiting (as ++ d :: bs) = (pairs waiting as && pairs false bs) := by
  induction as generalizing waiting with
  | nil => exact pairs_of_ne hd waiting bs
  | cons c as ih =>
      cases waiting with
      | false => exact ih _
      | true =>
          show (c = '$' && pairs false (as ++ d :: bs)) = _
          rw [ih, ← Bool.and_assoc]
          rfl

/-- Without dollar signs, none may wait. -/
theorem pairs_of_notMem {waiting : Bool} {cs : List Char} (h : '$' ∉ cs) :
    pairs waiting cs = !waiting := by
  induction cs generalizing waiting with
  | nil => rfl
  | cons c cs ih =>
      obtain ⟨hc, hcs⟩ := not_or.mp (mt List.mem_cons.mpr h)
      rw [pairs_of_ne (Ne.symm hc), ih hcs, Bool.not_false, Bool.and_true]

/-- A run of other characters in front leaves pairs as they are. -/
theorem pairs_append_of_notMem {waiting : Bool} {as : List Char} (hne : as ≠ []) (h : '$' ∉ as)
    (bs : List Char) : pairs waiting (as ++ bs) = (!waiting && pairs false bs) := by
  induction as generalizing waiting with
  | nil => exact absurd rfl hne
  | cons c as ih =>
      obtain ⟨hc, has⟩ := not_or.mp (mt List.mem_cons.mpr h)
      rw [List.cons_append, pairs_of_ne (Ne.symm hc)]
      by_cases hnil : as = []
      · rw [hnil, List.nil_append]
      · rw [ih hnil has, Bool.not_false, Bool.true_and]

/-! ## Texts that are put together -/

theorem paired_of_notMem {s : String} (h : '$' ∉ s.toList) : Paired s := by
  rw [Paired, pairs_of_notMem h]
  rfl

/-- A text that is written out. -/
theorem paired_of_eq {s : String} {cs : List Char} (hs : s = String.ofList cs)
    (h : pairs false cs = true) : Paired s := by
  rw [Paired, hs, String.toList_ofList]
  exact h

/-- Two parts with something between them. -/
theorem paired_append_append {sep : String} (hne : sep ≠ "") (hsep : '$' ∉ sep.toList)
    {a b : String} : Paired (a ++ sep ++ b) ↔ Paired a ∧ Paired b := by
  obtain ⟨c, cs, hcs⟩ : ∃ c cs, sep.toList = c :: cs := by
    refine List.exists_cons_of_ne_nil ?_
    intro hnil
    exact hne (String.toList_eq_nil_iff.mp hnil)
  rw [hcs] at hsep
  obtain ⟨hc, hcs'⟩ := not_or.mp (mt List.mem_cons.mpr hsep)
  rw [Paired, String.toList_append, String.toList_append, hcs, List.append_assoc, List.cons_append,
    pairs_append_cons (Ne.symm hc)]
  have hrest : pairs false (cs ++ b.toList) = pairs false b.toList := by
    by_cases hnil : cs = []
    · rw [hnil, List.nil_append]
    · exact pairs_append_of_notMem hnil hcs' _
  rw [hrest, Bool.and_eq_true]
  rfl

theorem paired_empty : Paired "" := rfl

/-- A part with something behind it. -/
theorem paired_append_left {sep : String} (hne : sep ≠ "") (hsep : '$' ∉ sep.toList) {a : String} :
    Paired (a ++ sep) ↔ Paired a := by
  have h := paired_append_append hne hsep (a := a) (b := "")
  rwa [String.append_empty, and_iff_left paired_empty] at h

/-- A part with something in front of it. -/
theorem paired_append_right {sep : String} (hne : sep ≠ "") (hsep : '$' ∉ sep.toList) {b : String} :
    Paired (sep ++ b) ↔ Paired b := by
  have h := paired_append_append hne hsep (a := "") (b := b)
  rwa [String.empty_append, and_iff_right paired_empty] at h

/-- **Where other characters are spelled otherwise, pairs stay pairs.** -/
theorem pairs_flatMap {f : Char → List Char} (hdollar : f '$' = ['$'])
    (hother : ∀ c, c ≠ '$' → f c ≠ [] ∧ '$' ∉ f c) (waiting : Bool) (cs : List Char) :
    pairs waiting (cs.flatMap f) = pairs waiting cs := by
  induction cs generalizing waiting with
  | nil => rfl
  | cons c cs ih =>
      rw [List.flatMap_cons]
      by_cases hc : c = '$'
      · subst hc
        rw [hdollar]
        exact pairs_cons_congr ih waiting '$'
      · obtain ⟨hne, hnot⟩ := hother c hc
        rw [pairs_append_of_notMem hne hnot, pairs_of_ne hc, ih]

/-- **Where texts are replaced by others, pairs stay pairs**, if neither of them has a dollar sign.
The induction goes from one hit to the next. -/
theorem pairs_replaceFrom {old new : List Char} (hold : old ≠ []) (hnew : new ≠ [])
    (hold' : '$' ∉ old) (hnew' : '$' ∉ new) (waiting : Bool) (cs tail : List Char) :
    pairs waiting (Text.replaceFrom old new 0 cs ++ tail) = pairs waiting (cs ++ tail) := by
  -- what is passed over behind a hit is the rest of the old text
  have hskip : ∀ as bs : List Char,
      Text.replaceFrom old new as.length (as ++ bs) = Text.replaceFrom old new 0 bs := by
    intro as bs
    induction as with
    | nil => rfl
    | cons c as ih => exact ih
  induction hn : cs.length using Nat.strong_induction_on generalizing waiting cs with
  | _ n ih =>
      cases cs with
      | nil => rfl
      | cons c cs =>
          rw [Text.replaceFrom]
          split
          · rename_i hhit
            obtain ⟨rest, hrest⟩ := List.isPrefixOf_iff_prefix.mp hhit
            obtain ⟨d, old', rfl⟩ := List.exists_cons_of_ne_nil hold
            have hcs : cs = old' ++ rest := (List.cons.inj hrest).2.symm
            have hlt : rest.length < n := by
              rw [← hn, hcs, List.length_cons, List.length_append]
              omega
            -- both the new and the old text keep what is behind them apart
            rw [List.append_assoc, pairs_append_of_notMem hnew hnew', List.length_cons,
              Nat.add_sub_cancel, hcs, hskip, ih _ hlt _ _ rfl, ← hcs, ← hrest, List.append_assoc,
              pairs_append_of_notMem hold hold']
          · have hlt : cs.length < n := by
              rw [← hn, List.length_cons]
              exact Nat.lt_succ_self _
            exact pairs_cons_congr (fun waiting => ih _ hlt waiting cs rfl) waiting c

/-- **A text in which others are replaced.** -/
theorem paired_replace {old new : String} (hold : old ≠ "") (hnew : new ≠ "")
    (hold' : '$' ∉ old.toList) (hnew' : '$' ∉ new.toList) (s : String) :
    Paired (Text.replace old new s) ↔ Paired s := by
  have hne : ∀ t : String, t ≠ "" → t.toList ≠ [] := fun t ht hnil =>
    ht (String.toList_eq_nil_iff.mp hnil)
  have h := pairs_replaceFrom (hne _ hold) (hne _ hnew) hold' hnew' false s.toList []
  rw [List.append_nil, List.append_nil] at h
  rw [Paired, Text.replace, String.toList_ofList, h]
  rfl

/-! ## Statements -/

namespace Statement

/-- **A literal of the statement language.** -/
theorem paired_quote (s : String) : Paired (quote s) ↔ Paired s := by
  have hflat : pairs false (s.toList.flatMap quotedChar) = pairs false s.toList := by
    refine pairs_flatMap (by decide) ?_ false _
    intro c hc
    rw [quotedChar]
    split
    · simp [Ne.symm hc]
    · simp [Ne.symm hc]
  rw [Paired, quote, String.toList_ofList, pairs_of_ne (by decide),
    pairs_append_cons (by decide), hflat]
  simp [Paired, pairs]

theorem paired_bodyRef (field : String) : Paired (bodyRef field) ↔ Paired field := by
  simp (disch := decide) only [bodyRef, paired_append_left, paired_append_right, paired_quote]

theorem paired_attributeRef (name : String) : Paired (attributeRef name) ↔ Paired name := by
  simp (disch := decide) only [attributeRef, paired_append_left, paired_append_right, paired_quote]

/-- The texts from which the time of a record is read. -/
def timeTexts : (timeKey timeFormat : Option String) → List String
  | some key, some format => [key, format]
  | _, _ => []

/-- **The statements that read a field.** -/
theorem paired_replaceField (field extract : String) (timeKey timeFormat : Option String) :
    (∀ s ∈ replaceField field extract timeKey timeFormat, Paired s) ↔
      Paired extract ∧ Paired field ∧ ∀ t ∈ timeTexts timeKey timeFormat, Paired t := by
  have hmerge : Paired "merge_maps(body, " := by decide
  cases timeKey <;> cases timeFormat
  all_goals simp (disch := decide) only [replaceField, timeTexts, List.forall_mem_append,
    List.forall_mem_cons, List.not_mem_nil, false_implies, implies_true, and_true,
    paired_append_append, paired_append_left, paired_append_right, paired_bodyRef, paired_quote]
  all_goals grind only

end Statement

theorem ParseJson.paired_statements (p : ParseJson) : (∀ s ∈ p.statements, Paired s) ↔
    Paired p.bodyField ∧ ∀ t ∈ Statement.timeTexts p.timeKey p.timeFormat, Paired t := by
  rw [statements, Statement.paired_replaceField]
  simp (disch := decide) only [paired_append_left, paired_append_right, Statement.paired_bodyRef]
  exact and_self_left

theorem ParseRegex.paired_statements (p : ParseRegex) : (∀ s ∈ p.statements, Paired s) ↔
    Paired p.bodyField ∧ Paired p.regex ∧
      ∀ t ∈ Statement.timeTexts p.timeKey p.timeFormat, Paired t := by
  have hregex : Paired p.collectorRegex ↔ Paired p.regex :=
    paired_replace (by decide) (by decide) (by decide) (by decide) _
  rw [statements, Statement.paired_replaceField]
  simp (disch := decide) only [paired_append_append, paired_append_left, paired_append_right,
    Statement.paired_bodyRef, Statement.paired_quote, hregex]
  grind only

/-! ## Patterns -/

namespace Pattern

/-- What a character is spelled with begins with another than a dollar sign. -/
theorem escapeChar_eq (c : Char) : ∃ d cs, escapeChar c = d :: cs ∧ d ≠ '$' := by
  rw [escapeChar]
  split
  · exact ⟨_, _, rfl, by decide⟩
  · rename_i hmeta
    refine ⟨c, [], rfl, ?_⟩
    rintro rfl
    exact hmeta (by decide)

/-- Escaped, each dollar sign stands by itself, so that only the last can have a partner behind
it. -/
theorem pairs_escape {cs : List Char} : pairs false (cs.flatMap escapeChar ++ ['$']) = true ↔
    ∃ head, cs = head ++ ['$'] ∧ '$' ∉ head := by
  induction cs with
  | nil => simp [pairs]
  | cons c cs ih =>
      rw [List.flatMap_cons, List.append_assoc]
      by_cases hc : c = '$'
      · subst hc
        show pairs true (cs.flatMap escapeChar ++ ['$']) = true ↔ _
        cases cs with
        | nil => exact iff_of_true rfl ⟨[], rfl, List.not_mem_nil⟩
        | cons d cs =>
            obtain ⟨e, es, he, hne⟩ := escapeChar_eq d
            -- the dollar sign waits, but what follows it is not one
            rw [List.flatMap_cons, he, List.cons_append, List.cons_append, pairs_of_ne hne]
            refine iff_of_false Bool.false_ne_true ?_
            rintro ⟨head, hhead, hnot⟩
            cases head with
            | nil => exact nomatch hhead
            | cons x head => exact hnot ((List.cons.inj hhead).1 ▸ List.mem_cons_self)
      · have hescape : escapeChar c ≠ [] ∧ '$' ∉ escapeChar c := by
          rw [escapeChar]
          split <;> simp [Ne.symm hc]
        rw [pairs_append_of_notMem hescape.1 hescape.2, Bool.not_false, Bool.true_and, ih]
        constructor
        · rintro ⟨head, rfl, hnot⟩
          exact ⟨c :: head, rfl, List.not_mem_cons_of_ne_of_not_mem (Ne.symm hc) hnot⟩
        · rintro ⟨head, hhead, hnot⟩
          cases head with
          | nil => exact absurd (List.cons.inj hhead).1 hc
          | cons x head =>
              exact ⟨head, (List.cons.inj hhead).2, fun h => hnot (List.mem_cons_of_mem _ h)⟩

end Pattern

/-- **The expression for a pattern ends with a dollar sign of its own.** Only one at the end of the
pattern, if it is the only one there, makes a pair of it. -/
theorem paired_ofGlob_iff {pattern : String} : Paired (Pattern.ofGlob pattern) ↔
    ∃ head, pattern = head ++ "$" ∧ '$' ∉ head.toList := by
  have hglob : Paired (Pattern.ofGlob pattern) ↔
      pairs false (pattern.toList.flatMap Pattern.escapeChar ++ ['$']) = true := by
    rw [Pattern.ofGlob, Paired, String.toList_append, String.toList_append, Text.replace,
      String.toList_ofList, Pattern.escape, Text.expandChars, String.toList_ofList,
      List.append_assoc, pairs_append_of_notMem (by decide) (by decide),
      pairs_replaceFrom (by decide) (by decide) (by decide) (by decide), String.toList_ofList]
    rfl
  rw [hglob, Pattern.pairs_escape]
  constructor
  · rintro ⟨head, hhead, hnot⟩
    refine ⟨String.ofList head, ?_, by rwa [String.toList_ofList]⟩
    rw [← String.toList_inj, String.toList_append, String.toList_ofList, hhead]
    rfl
  · rintro ⟨head, rfl, hnot⟩
    exact ⟨head.toList, String.toList_append, hnot⟩

end Telemetry
