import Telemetry.Metrics.Processor
import Telemetry.Proofs.Regex
import Telemetry.Proofs.Wildcard

/-!
# Name patterns as expressions

The processor that drops metrics is asked for patterns in which `*` stands for any run of characters,
and gives the collector regular expressions. Each is made by escaping the whole pattern and then
replacing the escaped stars.

* **`Pattern.openStars_escape`** — this works character by character, also where backslashes stand in
  front of a star.
* **`Regex.parse_anchored`** — an expression between anchors has to match the whole text.
* **`Regex.catAll_globItem`** — a pattern and its expression match the same texts of one line.
* **`MetricsProcessor.regexes_express`** — so do all expressions of a processor.
-/

namespace Telemetry

/-! ## The text of the expression -/

namespace Pattern

/-- A character of a name pattern as the expression has it. -/
def globChar (c : Char) : List Char :=
  if c = '*' then ['.', '*'] else escapeChar c

/-- Replaces the escaped stars of a text. -/
def openStars (cs : List Char) : List Char :=
  Text.replaceFrom ['\\', '*'] ['.', '*'] 0 cs

/-- A character with no star behind it stays. -/
theorem openStars_cons {cs : List Char} (h : cs.head? ≠ some '*') (c : Char) :
    openStars (c :: cs) = c :: openStars cs := by
  refine if_neg fun hp => ?_
  obtain ⟨rest, hrest⟩ := List.isPrefixOf_iff_prefix.mp hp
  obtain ⟨-, rfl⟩ := List.cons.inj hrest
  exact h rfl

/-- An escaped text does not begin with a star. -/
theorem head?_escape_ne_star (cs : List Char) : (cs.flatMap escapeChar).head? ≠ some '*' := by
  cases cs with
  | nil => simp
  | cons c cs =>
      rw [List.flatMap_cons, escapeChar]
      split
      · simp
      · rename_i hc
        intro h
        obtain rfl := Option.some.inj h
        exact hc rfl

/-- **Escaping and then replacing the escaped stars** goes character by character: a star in an
escaped text stands behind its own backslash, whatever stands in front of that. -/
theorem openStars_escape (cs : List Char) :
    openStars (cs.flatMap escapeChar) = cs.flatMap globChar := by
  induction cs with
  | nil => rfl
  | cons c cs ih =>
      rw [List.flatMap_cons, List.flatMap_cons, ← ih, globChar]
      by_cases hstar : c = '*'
      · subst hstar
        rfl
      · have hkeep := openStars_cons (head?_escape_ne_star cs) c
        rw [if_neg hstar, escapeChar]
        split
        · -- the backslash in front of another character
          have hback : (c :: cs.flatMap escapeChar).head? ≠ some '*' := fun h =>
            hstar (Option.some.inj h)
          exact (openStars_cons hback '\\').trans (congrArg ('\\' :: ·) hkeep)
        · exact hkeep

theorem toList_ofGlob (p : String) :
    (ofGlob p).toList = '^' :: (p.toList.flatMap globChar ++ ['$']) := by
  have hbody : (Text.replace "\\*" ".*" (escape p)).toList = p.toList.flatMap globChar := by
    simp only [Text.replace, escape, Text.expandChars, String.toList_ofList]
    exact openStars_escape p.toList
  rw [ofGlob, String.toList_append, String.toList_append, hbody]
  rfl

end Pattern

/-! ## The items of the expression -/

namespace Regex

theorem ReadsAs.nil : ReadsAs [] [] :=
  ⟨[], fun rest => by simp, fun outer f rest => by simp [Frame.pushAll]⟩

/-- Texts behind each other add the items of all. -/
theorem ReadsAs.flatMap {α : Type} {s : α → List Char} {r : α → Regex}
    (h : ∀ a, ReadsAs (s a) [r a]) (as : List α) : ReadsAs (as.flatMap s) (as.map r) := by
  induction as with
  | nil => exact .nil
  | cons a as ih => exact (h a).append ih

theorem readsAs_any : ReadsAs ['.', '*'] [.star .dot] := by
  refine ⟨[.dot, .star], ?_, ?_⟩
  · intro rest
    show tokens ('.' :: '*' :: rest) = _
    rw [tokens_cons (t := .dot) (by decide), tokens_cons (t := .star) (by decide), Option.map_map]
    rfl
  · intro outer f rest
    simp [read, Frame.push, Frame.repeatLast?, Frame.pushAll]

/-- **Between the anchors, an expression has to match the whole text.** -/
theorem parse_anchored {s : String} {body : List Char} {rs : List Regex}
    (hs : s.toList = '^' :: (body ++ ['$'])) (h : ReadsAs body rs) :
    ∃ r, parse? s = some r ∧ ∀ text, r.Finds text ↔ (catAll rs).Spans [] text [] := by
  obtain ⟨ts, ht, hr⟩ := h
  refine ⟨catAll (.textStart :: (rs ++ [.textEnd])), ?_, ?_⟩
  · have hdollar : tokens ['$'] = some [.dollar] := rfl
    rw [parse?, hs, tokens_cons (t := .caret) (by decide), ht, hdollar]
    show read [] (Frame.start.push .textStart) (ts ++ [.dollar]) = _
    rw [hr, read, read]
    simp [Frame.push, Frame.pushAll, Frame.start, Frame.close]
  · intro text
    constructor
    · rintro ⟨before, mid, after, rfl, u, v, rfl, ⟨rfl, rfl⟩, hv⟩
      obtain ⟨x, y, rfl, hx, w, z, rfl, ⟨rfl, hz⟩, hend⟩ := (catAll_append _ _ _ _ _).mp hv
      obtain rfl : z = [] := hend
      obtain rfl : after = [] := by simpa using hz
      simpa using hx
    · intro h
      refine ⟨[], text, [], by simp, [], text, rfl, ⟨rfl, rfl⟩, (catAll_append _ _ _ _ _).mpr ?_⟩
      exact ⟨text, [], by simp, by simpa using h, [], [], rfl, ⟨rfl, rfl⟩, rfl⟩

/-- What stands for a character of a name pattern. -/
def globItem (c : Char) : Regex :=
  if c = '*' then .star .dot else .char c

theorem readsAs_globChar (c : Char) : ReadsAs (Pattern.globChar c) [globItem c] := by
  by_cases hc : c = '*'
  · rw [Pattern.globChar, globItem, if_pos hc, if_pos hc]
    exact readsAs_any
  · have h := readsAs_escape (String.ofList [c])
    rw [Pattern.globChar, globItem, if_neg hc, if_neg hc]
    simpa [Pattern.escape, Text.expandChars] using h

/-! ## What the expression matches -/

/-- **On a text of one line, the items of a pattern match what the pattern matches.** The induction
is on the pattern; a wildcard of it takes the run that the repeated dot spans. -/
theorem catAll_globItem (ps before mid after : List Char) (hline : '\n' ∉ mid) :
    (catAll (ps.map globItem)).Spans before mid after ↔ Wildcard.matchesChars ps mid = true := by
  induction ps generalizing before mid with
  | nil => exact Wildcard.matchesChars_nil.symm
  | cons p ps ih =>
      simp only [List.map_cons, catAll, Spans, globItem]
      by_cases hp : p = '*'
      · subst hp
        rw [if_pos rfl, Wildcard.matchesChars_star]
        constructor
        · rintro ⟨run, rest, rfl, -, hrest⟩
          exact ⟨run, rest, rfl, (ih _ _ fun h => hline (List.mem_append_right _ h)).mp hrest⟩
        · rintro ⟨run, rest, rfl, hrest⟩
          refine ⟨run, rest, rfl, (star_dot _ _ _).mpr fun h => hline (List.mem_append_left _ h), ?_⟩
          exact (ih _ _ fun h => hline (List.mem_append_right _ h)).mpr hrest
      · rw [if_neg hp, Wildcard.matchesChars_cons hp]
        constructor
        · rintro ⟨_, rest, rfl, rfl, hrest⟩
          exact ⟨rest, rfl, (ih _ _ fun h => hline (List.mem_cons_of_mem _ h)).mp hrest⟩
        · rintro ⟨rest, rfl, hrest⟩
          refine ⟨[p], rest, rfl, rfl, ?_⟩
          exact (ih _ _ fun h => hline (List.mem_cons_of_mem _ h)).mpr hrest

/-- An expression made from a name pattern can be read, and matches the texts of one line that the
pattern matches. -/
theorem parse_ofGlob (p : String) :
    ∃ r, parse? (Pattern.ofGlob p) = some r ∧
      ∀ text : String, '\n' ∉ text.toList → (r.Finds text.toList ↔ Wildcard.Matches p text) := by
  obtain ⟨r, hr, hfinds⟩ :=
    parse_anchored (Pattern.toList_ofGlob p) (ReadsAs.flatMap readsAs_globChar p.toList)
  refine ⟨r, hr, fun text hline => ?_⟩
  rw [hfinds, catAll_globItem _ _ _ _ hline]
  rfl

end Regex

/-! ## The expressions of a processor -/

/-- A text is an expression, and it matches the names of one line that the pattern matches. -/
def Pattern.Expresses (pattern expression : String) : Prop :=
  (Regex.parse? expression).isSome ∧ ∀ name : String, '\n' ∉ name.toList →
    (Regex.Matches expression name ↔ Wildcard.Matches pattern name)

namespace MetricsProcessor

/-- **Each pattern has an expression that matches the same names**: a star in it stands for any run
of characters, and every other character for itself. -/
theorem regexes_express (patterns : List String) :
    List.Forall₂ Pattern.Expresses patterns (excludeMetrics patterns).regexes := by
  rw [regexes, List.forall₂_map_right_iff, List.forall₂_same]
  intro p _
  obtain ⟨r, hr, hfinds⟩ := Regex.parse_ofGlob p
  refine ⟨by rw [hr]; rfl, fun name hline => ?_⟩
  rw [Regex.Matches, hr]
  simpa using hfinds name hline

/-- The metrics of one domain, with a star behind a backslash. -/
theorem regexes_express_escapedStar :
    (excludeMetrics ["a.b/\\*"]).regexes = ["^a\\.b/\\\\.*$"] ∧
      Regex.Matches "^a\\.b/\\\\.*$" "a.b/\\c*" ∧ ¬ Regex.Matches "^a\\.b/\\\\.*$" "a.b/*" := by
  have hregexes : (excludeMetrics ["a.b/\\*"]).regexes = ["^a\\.b/\\\\.*$"] := rfl
  have h := regexes_express ["a.b/\\*"]
  rw [hregexes] at h
  obtain ⟨-, hmatches⟩ := (List.forall₂_cons.mp h).1
  refine ⟨hregexes, (hmatches _ (by decide)).mpr rfl, fun hm => ?_⟩
  exact Bool.false_ne_true ((hmatches _ (by decide)).mp hm)

end MetricsProcessor

end Telemetry
