import Telemetry.Proofs.ParsedField

/-!
# Named groups in the two spellings

An expression of the user names its groups in the spelling of the log engine, `(?<name>…)`; the
collector wants `(?P<name>…)`. The letter is put in by a replacement of texts, which does not see
where it is in the expression.

* **`Place`** — what a reader of an expression has to know to tell where a group begins: the classes
  that are open, and whether a backslash stands in front.
* **`Respelled`** — an expression that has the letter at some of its named groups and is the same
  otherwise.
* **`respelled_iff`** — the replacement respells an expression exactly if each of the replaced texts
  begins a named group.
* **`ParseRegex.respells_iff`** — so in the statement that the collector runs; in the class of
  **`ParseRegex.respells_bracketed`** the letter is one more character that it takes.
-/

namespace Telemetry

namespace NamedGroup

/-! ## Where a group begins -/

/-- How much of a class was read. At its beginning a closing bracket does not close it. -/
inductive ClassHead where
  | bracket
  | caret
  | past
  deriving DecidableEq, Repr

/-- Where a reader is in an expression. -/
structure Place where
  /-- How many classes are open, one in another. -/
  classes : Nat
  /-- How much of the innermost class was read. -/
  head : ClassHead
  /-- Whether a backslash takes the next character. -/
  escaped : Bool
  deriving DecidableEq, Repr

namespace Place

/-- The beginning of an expression. -/
def start : Place := ⟨0, .past, false⟩

/-- Reads one character. -/
def step (p : Place) (c : Char) : Place :=
  if p.escaped then { p with head := .past, escaped := false }
  else if c = '\\' then { p with escaped := true }
  else if c = '[' then ⟨p.classes + 1, .bracket, false⟩
  else if p.classes = 0 then p
  else if c = ']' ∧ p.head = .past then { p with classes := p.classes - 1 }
  else if c = '^' ∧ p.head = .bracket then { p with head := .caret }
  else { p with head := .past }

/-- Reads several characters. -/
def after (p : Place) (cs : List Char) : Place :=
  cs.foldl step p

/-- A character of the name of a group. Engines differ in the letters beyond the first 128
characters; all of these count. -/
def isNameChar (c : Char) : Bool :=
  c.isAlphanum || c = '_' || 128 ≤ c.toNat

/-- A text begins with a name and the bracket that ends it. -/
def beginsName (cs : List Char) : Bool :=
  cs.takeWhile isNameChar ≠ [] && (cs.dropWhile isNameChar).head? = some '>'

/-- At this place, the opening of a group begins a named group, if `rest` stands behind it. -/
def Opens (p : Place) (rest : List Char) : Prop :=
  p.classes = 0 ∧ p.escaped = false ∧ beginsName rest = true

instance (p : Place) (rest : List Char) : Decidable (p.Opens rest) :=
  inferInstanceAs (Decidable (_ ∧ _))

theorem step_of_outside {p : Place} (hclasses : p.classes = 0) (hescaped : p.escaped = false)
    {c : Char} (hc : c ∉ ['\\', '[']) : p.step c = p := by
  simp only [List.mem_cons, List.not_mem_nil, or_false, not_or] at hc
  simp [step, hclasses, hescaped, hc.1, hc.2]

/-- Behind the opening of a group a reader is where it was. -/
theorem Opens.after_cons {p : Place} {rest : List Char} (h : p.Opens rest) (cs : List Char) :
    p.after ('(' :: '?' :: '<' :: cs) = p.after cs := by
  have hstep := fun c hc => step_of_outside h.1 h.2.1 (c := c) hc
  simp only [after, List.foldl_cons]
  rw [hstep '(' (by decide), hstep '?' (by decide), hstep '<' (by decide)]

end Place

/-! ## The other spelling -/

/-- From a place on, an expression is the same in another spelling, but for the letter at some of
its named groups. -/
inductive Respelled : Place → List Char → List Char → Prop where
  | nil (p : Place) : Respelled p [] []
  | same {p : Place} {c : Char} {cs ds : List Char} :
      Respelled (p.step c) cs ds → Respelled p (c :: cs) (c :: ds)
  | name {p : Place} {cs ds : List Char} :
      p.Opens cs → Respelled p cs ds →
      Respelled p ('(' :: '?' :: '<' :: cs) ('(' :: '?' :: 'P' :: '<' :: ds)

/-- Puts the letter wherever the opening of a named group may stand. -/
def addLetter : List Char → List Char
  | '(' :: '?' :: '<' :: cs => '(' :: '?' :: 'P' :: '<' :: addLetter cs
  | c :: cs => c :: addLetter cs
  | [] => []

/-- The replacement puts the letter there. -/
theorem replaceFrom_eq_addLetter (cs : List Char) :
    Text.replaceFrom ['(', '?', '<'] ['(', '?', 'P', '<'] 0 cs = addLetter cs := by
  induction cs using addLetter.induct with
  | case1 cs ih =>
      rw [addLetter, ← ih]
      rfl
  | case2 c cs hother ih =>
      rw [addLetter.eq_2 _ _ hother, ← ih]
      refine if_neg fun h => ?_
      obtain ⟨rest, hrest⟩ := List.isPrefixOf_iff_prefix.mp h
      obtain ⟨rfl, rfl⟩ := List.cons.inj hrest
      exact hother rest rfl rfl
  | case3 => rfl

/-- A character that does not open a group is found where it was. -/
theorem exists_eq_of_prefix_addLetter {c : Char} (hc : c ≠ '(') {ds cs : List Char}
    (h : c :: ds <+: addLetter cs) : ∃ cs', cs = c :: cs' ∧ ds <+: addLetter cs' := by
  cases cs using addLetter.induct with
  | case1 cs => exact absurd (List.cons_prefix_cons.mp h).1 hc
  | case2 d cs hother =>
      rw [addLetter.eq_2 _ _ hother] at h
      obtain ⟨rfl, hds⟩ := List.cons_prefix_cons.mp h
      exact ⟨cs, rfl, hds⟩
  | case3 => simp [addLetter] at h

/-- No opening in the old spelling is left. -/
theorem opening_notInfix_addLetter (cs : List Char) : ¬ ['(', '?', '<'] <:+: addLetter cs := by
  induction cs using addLetter.induct with
  | case1 cs ih =>
      rw [addLetter]
      simpa [List.infix_cons_iff] using ih
  | case2 c cs hother ih =>
      rw [addLetter.eq_2 _ _ hother, List.infix_cons_iff, not_or]
      refine ⟨fun h => ?_, ih⟩
      obtain ⟨rfl, hmark⟩ := List.cons_prefix_cons.mp h
      -- the two characters behind the bracket were not changed
      obtain ⟨cs, rfl, hcs⟩ := exists_eq_of_prefix_addLetter (by decide) hmark
      obtain ⟨cs, rfl, -⟩ := exists_eq_of_prefix_addLetter (by decide) hcs
      exact hother cs rfl rfl
  | case3 => simp [addLetter]

/-- **The letter is put at named groups only** exactly if each text that may open one does. The
induction is on the replacement: at an opening, the letter cannot be there otherwise. -/
theorem respelled_iff (p : Place) (cs : List Char) :
    Respelled p cs (addLetter cs) ↔
      ∀ before rest, cs = before ++ '(' :: '?' :: '<' :: rest → (p.after before).Opens rest := by
  induction cs using addLetter.induct generalizing p with
  | case1 cs ih =>
      rw [addLetter]
      constructor
      · intro h
        cases h with
        | same h =>
            -- the letter would have to be the bracket behind the question mark
            cases h with
            | same h => exact nomatch h
        | name hopens h =>
            intro before rest heq
            match before, heq with
            | [], heq =>
                obtain rfl : cs = rest := by simpa using heq
                exact hopens
            | [_], heq => simp at heq
            | [_, _], heq => simp at heq
            | _ :: _ :: _ :: before, heq =>
                obtain ⟨rfl, rfl, rfl, htail⟩ : '(' = _ ∧ '?' = _ ∧ '<' = _ ∧ _ := by simpa using heq
                rw [hopens.after_cons]
                exact (ih p).mp h before rest htail
      · intro h
        have hopens : p.Opens cs := h [] cs rfl
        refine .name hopens ((ih p).mpr fun before rest heq => ?_)
        rw [← hopens.after_cons before]
        exact h ('(' :: '?' :: '<' :: before) rest (by rw [heq]; rfl)
  | case2 c cs hother ih =>
      rw [addLetter.eq_2 _ _ hother]
      constructor
      · intro h before rest heq
        cases h with
        | same h =>
            cases before with
            | nil =>
                obtain ⟨hc, hcs⟩ := List.cons.inj heq
                exact absurd hcs (hother _ hc)
            | cons b before =>
                obtain ⟨rfl, htail⟩ := List.cons.inj heq
                exact (ih _).mp h before rest htail
      · intro h
        refine .same ((ih _).mpr fun before rest heq => ?_)
        exact h (c :: before) rest (by rw [heq]; rfl)
  | case3 =>
      refine ⟨fun _ before rest heq => ?_, fun _ => .nil p⟩
      simp at heq

/-- The openings of a text, by the number of characters in front of them. -/
theorem opens_of_take {p : Place} {cs : List Char}
    (h : ∀ n < cs.length, ['(', '?', '<'] <+: cs.drop n →
      (p.after (cs.take n)).Opens (cs.drop (n + 3))) (before rest : List Char)
    (heq : cs = before ++ '(' :: '?' :: '<' :: rest) : (p.after before).Opens rest := by
  have hopens := h before.length (by simp [heq]) (by simp [heq])
  simpa [heq] using hopens

end NamedGroup

/-! ## The expression in a statement -/

namespace Statement

/-- The expression in the tokens that a statement reads a field by. -/
def patternsIn : List Token → List String
  | function :: .symbol '(' :: .word body :: .symbol '[' :: .text _ :: .symbol ']' :: .symbol ',' ::
      .text pattern :: .symbol ')' :: _ =>
    if function = .ofWord "ExtractPatterns" ∧ body = "body".toList then [String.ofList pattern]
    else []
  | _ => []

/-- The expressions by which a statement takes a field of the body apart. -/
def patterns (statement : String) : List String :=
  ((tokens? statement).bind (List.dropPrefix? · extractHead)).elim [] patternsIn

theorem patterns_of_tokens? {s : String} {ts : Option (List Token)} (h : tokens? s = ts) :
    patterns s = (ts.bind (List.dropPrefix? · extractHead)).elim [] patternsIn := by
  rw [patterns, h]

/-- Of the statements that replace a field, the first has the expression. -/
theorem patterns_replaceField {extract : String} {ts : List Token} (h : Reads extract ts)
    (field : String) (timeKey timeFormat : Option String) :
    (replaceField field extract timeKey timeFormat).flatMap patterns
      = patternsIn (ts ++ testTokens field) := by
  have hextract := patterns_of_tokens? (tokens?_extract h field)
  rw [Option.bind_some, List.dropPrefix?_append_of_beq _ BEq.rfl, Option.elim_some] at hextract
  have hdelete : ∀ rest, patterns ("delete_key(body, " ++ rest) = [] := by
    intro rest
    rw [patterns_of_tokens? (reads_deleteHead.tokens?_append rest)]
    cases tokens? rest <;> rfl
  have hmerge : patterns ("merge_maps(body, " ++ "cache[\"parsed\"]" ++ ", \"upsert\") where "
      ++ "cache[\"parsed\"]" ++ " != nil") = [] := rfl
  have htime : ∀ rest, patterns ("set(time, Time(" ++ rest) = [] := by
    intro rest
    rw [patterns_of_tokens? (reads_timeHead.tokens?_append rest)]
    cases tokens? rest <;> rfl
  unfold replaceField
  simp only [String.append_assoc] at hextract hmerge ⊢
  split <;> simp only [List.flatMap_append, List.flatMap_cons, List.flatMap_nil, List.append_nil,
    hextract, hdelete, hmerge, htime]

end Statement

namespace ParseRegex

open NamedGroup Statement

theorem toList_collectorRegex (p : ParseRegex) :
    p.collectorRegex.toList = addLetter p.regex.toList := by
  rw [collectorRegex, Text.replace, String.toList_ofList]
  exact replaceFrom_eq_addLetter p.regex.toList

/-- The collector takes the field apart by the one expression in the statements. -/
theorem patterns_statements (p : ParseRegex) :
    p.statements.flatMap patterns = [p.collectorRegex] := by
  rw [statements, patterns_replaceField p.reads_extract]
  simp [patternsIn, Token.ofWord]

/-- The collector takes a field apart by one expression. -/
theorem patterns_nodes (p : ParseRegex) :
    ∃ ns, (LogProcessor.configured (.parseRegex p)).nodes? = some ns ∧
      (ns.flatMap Node.logStatements).flatMap patterns = [p.collectorRegex] := by
  refine ⟨_, rfl, ?_⟩
  rw [List.flatMap_singleton, Node.logStatements_transform]
  exact p.patterns_statements

/-- **The expression is respelled** exactly if it has `(?<` at named groups only: not behind a
backslash, not in a class, and not where a look-behind begins. In any case no `(?<` is left. -/
theorem respells_iff (p : ParseRegex) :
    ∃ ns pattern, (LogProcessor.configured (.parseRegex p)).nodes? = some ns ∧
      (ns.flatMap Node.logStatements).flatMap patterns = [pattern] ∧
      (Respelled .start p.regex.toList pattern.toList ↔
        ∀ before rest, p.regex.toList = before ++ '(' :: '?' :: '<' :: rest →
          (Place.start.after before).Opens rest) ∧
      ¬ "(?<".toList <:+: pattern.toList := by
  obtain ⟨ns, hns, hpatterns⟩ := p.patterns_nodes
  refine ⟨ns, p.collectorRegex, hns, hpatterns, ?_, ?_⟩
  · rw [toList_collectorRegex]
    exact respelled_iff .start p.regex.toList
  · rw [toList_collectorRegex]
    exact opening_notInfix_addLetter p.regex.toList

/-- Two named groups, and a class escape in one of them. -/
def levels : ParseRegex := { regex := "^(?<level>\\w+) (?<message>.*)$" }

/-- Both groups of `levels` are respelled, and nothing else is. -/
theorem respells_iff_levels :
    ∃ ns pattern, (LogProcessor.configured (.parseRegex levels)).nodes? = some ns ∧
      (ns.flatMap Node.logStatements).flatMap patterns = [pattern] ∧
      Respelled .start levels.regex.toList pattern.toList ∧ ¬ "(?<".toList <:+: pattern.toList := by
  obtain ⟨ns, pattern, hns, hpatterns, hrespelled, hleft⟩ := respells_iff levels
  refine ⟨ns, pattern, hns, hpatterns, hrespelled.mpr (opens_of_take ?_), hleft⟩
  simp only [levels, String.reduceToList]
  decide

/-- An expression with one named group and a class that has the same characters. -/
def bracketed : ParseRegex := { regex := "(?<a>[(?<]+)" }

/-- **A class gets the letter too:** the collector's expression takes one more character there. -/
theorem respells_bracketed : bracketed.check "brackets" = .ok () ∧
    ∃ ns, (LogProcessor.configured (.parseRegex bracketed)).nodes? = some ns ∧
      (ns.flatMap Node.logStatements).flatMap patterns = ["(?P<a>[(?P<]+)"] ∧
      ¬ Respelled .start "(?<a>[(?<]+)".toList "(?P<a>[(?P<]+)".toList := by
  have hpattern : bracketed.collectorRegex = "(?P<a>[(?P<]+)" := rfl
  obtain ⟨ns, hns, hpatterns⟩ := bracketed.patterns_nodes
  rw [hpattern] at hpatterns
  refine ⟨rfl, ns, hns, hpatterns, fun h => ?_⟩
  rw [← hpattern, toList_collectorRegex] at h
  have hopens := (respelled_iff _ _).mp h "(?<a>[".toList "]+)".toList rfl
  exact absurd hopens (by decide)

end ParseRegex

end Telemetry
