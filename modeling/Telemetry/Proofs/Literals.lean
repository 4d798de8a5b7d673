import Telemetry.Collector.Node
import Telemetry.Proofs.Lua

/-!
# Texts in scripts and statements

A name that is written between quotation marks has to be read again by the language in which it is
written. There are two of them: the Lua of scripts, and the language of the collector's statements.
Both are read here character by character with what their texts stand for, so that a part of a script
or of a statement can be looked at by itself.

* **`transduce_append`** — reading one part after the other.
* **`Lua.leftField?`** — the one field that a script leaves in place, of which
  **`Lua.leftField?_nest`** says when it is the field to parse.
* **`Statement.reads_quote`** — the literals of statements stand for what they were made from, but
  for their dollar signs (**`Statement.undollared`**).
-/

namespace Telemetry

/-! ## Reading from the left -/

section

variable {σ τ : Type} {step : σ → Char → Option (List τ × σ)}

/-- Reads characters one by one, from a state to a state, and gathers what comes out. -/
def transduce (step : σ → Char → Option (List τ × σ)) : σ → List Char → Option (List τ × σ)
  | s, [] => some ([], s)
  | s, c :: cs =>
    (step s c).bind fun out => (transduce step out.2 cs).map fun rest => (out.1 ++ rest.1, rest.2)

theorem transduce_cons {s s' : σ} {c : Char} {ts : List τ} (h : step s c = some (ts, s'))
    (cs : List Char) :
    transduce step s (c :: cs) = (transduce step s' cs).map fun rest => (ts ++ rest.1, rest.2) := by
  rw [transduce, h, Option.bind_some]

/-- Characters are read one part after the other. -/
theorem transduce_append {s s' : σ} {as : List Char} {ts : List τ}
    (h : transduce step s as = some (ts, s')) (bs : List Char) :
    transduce step s (as ++ bs)
      = (transduce step s' bs).map fun rest => (ts ++ rest.1, rest.2) := by
  induction as generalizing s ts with
  | nil =>
      obtain ⟨rfl, rfl⟩ := Prod.mk.inj (Option.some.inj h)
      rw [List.nil_append]
      cases transduce step s bs <;> rfl
  | cons c as ih =>
      obtain ⟨⟨ts₁, s₁⟩, hstep, h⟩ := Option.bind_eq_some_iff.mp h
      obtain ⟨⟨ts₂, s₂⟩, hrest, h⟩ := Option.map_eq_some_iff.mp h
      obtain ⟨rfl, rfl⟩ := Prod.mk.inj h
      rw [List.cons_append, transduce_cons hstep, ih hrest, Option.map_map]
      refine congrArg (Option.map · _) (funext fun rest => ?_)
      exact congrArg (·, rest.2) (List.append_assoc ts₁ ts₂ rest.1).symm

end

namespace Lua

/-! ## Texts in a script -/

/-- A token, with the characters for which it stands if it is a text. -/
inductive Lexeme where
  | token (t : Token)
  | text (cs : List Char)
  deriving DecidableEq

/-- What a character behind a backslash stands for. -/
def escaped : Char → Char
  | 'a' => '\x07'
  | 'b' => '\x08'
  | 'f' => '\x0c'
  | 'n' => '\n'
  | 'r' => '\r'
  | 't' => '\t'
  | 'v' => '\x0b'
  | c => c

/-- What a text stands for, with one more character of it; nothing is kept when the text ends. -/
def gather (place : Place) (text : List Char) (c : Char) : List Char :=
  match place with
  | .text quote => if c = quote then [] else if c = '\\' then text else text ++ [c]
  | .escape _ => text ++ [escaped c]
  | _ => []

/-- A token that ends, with what was gathered. -/
def Lexeme.of (text : List Char) : Token → Lexeme
  | .text => .text text
  | t => .token t

/-- Reads one character, in a place where some text was gathered. -/
def lexStep (s : Place × List Char) (c : Char) : Option (List Lexeme × (Place × List Char)) :=
  (step s.1 c).toOption.map fun out => (out.1.map (Lexeme.of s.2), (out.2, gather s.1 s.2 c))

/-- What was read, if it ends between tokens. -/
def finished : List Lexeme × (Place × List Char) → Option (List Lexeme)
  | (ls, .between, _) => some ls
  | _ => none

/-- The tokens of a script with their texts, after which a line has to end. -/
def lexemes (script : String) : Option (List Lexeme) :=
  (transduce lexStep (.between, []) script.toList).bind finished

/-! ## The field that stays -/

/-- A word in a script. -/
def Lexeme.word (s : String) : Lexeme := .token (.word s.toList)

/-- A symbol in a script. -/
def Lexeme.symbol (s : String) : Lexeme := .token (Lua.symbol s)

/-- How a loop begins that goes over the fields of the record, and compares their names with a
text. -/
def loopHead : List Lexeme :=
  [.word "for", .word "k", .symbol ",", .word "v", .word "in", .word "pairs", .symbol "(",
    .word "record", .symbol ")", .word "do", .word "if", .word "k", .symbol "~="]

/-- How the loop goes on: a field with another name is moved into the nested record. -/
def loopTail : List Lexeme :=
  [.word "then", .word "nested", .symbol "[", .word "k", .symbol "]", .symbol "=", .word "v",
    .word "record", .symbol "[", .word "k", .symbol "]", .symbol "=", .word "nil", .word "end",
    .word "end"]

/-- The name that the first loop of a script spares, if it moves all other fields away. -/
def sparedName? (ls : List Lexeme) : Option (List Char) :=
  let loop := ls.dropWhile (· ≠ .word "for")
  match loop.drop loopHead.length with
  | .text name :: rest =>
    if loop.take loopHead.length = loopHead ∧ rest.take loopTail.length = loopTail then some name
    else none
  | _ => none

/-- The field that a script leaves in place, if it moves all others away. -/
def leftField? (script : String) : Option String :=
  ((lexemes script).bind sparedName?).map String.ofList

/-! ## Reading the inside of a text -/

/-- A character that stands for itself between quotation marks. -/
def Plain (c : Char) : Prop := c ∉ ['"', '\\', '\n', '\r']

instance : DecidablePred Plain := fun _ => inferInstanceAs (Decidable (¬ _))

theorem lexStep_plain {c : Char} (hc : Plain c) (text : List Char) :
    lexStep (.text '"', text) c = some ([], .text '"', text ++ [c]) := by
  simp only [Plain, List.mem_cons, List.not_mem_nil, or_false, not_or] at hc
  rw [lexStep, step, if_neg hc.1, if_neg hc.2.1, if_neg (not_or.mpr hc.2.2)]
  simp [Except.toOption, gather, hc.1, hc.2.1]

/-- Characters that stand for themselves are gathered. -/
theorem transduce_plain {cs : List Char} (hcs : ∀ c ∈ cs, Plain c) (text : List Char) :
    transduce lexStep (.text '"', text) cs = some ([], .text '"', text ++ cs) := by
  induction cs generalizing text with
  | nil => simp [transduce]
  | cons c cs ih =>
      obtain ⟨hc, hcs⟩ := List.forall_mem_cons.mp hcs
      rw [transduce_cons (lexStep_plain hc text), ih hcs]
      simp

theorem length_gather_le (place : Place) (text : List Char) (c : Char) :
    (gather place text c).length ≤ text.length + 1 := by
  cases place with
  | text quote =>
      show (if c = quote then [] else if c = '\\' then text else text ++ [c]).length ≤ _
      split
      · simp
      · split <;> simp
  | escape quote => simp [gather]
  | _ => simp [gather]

/-- Inside a text, a character ends it, or goes into it as one character at most. -/
theorem lexStep_inside {place : Place} (hplace : place = .text '"' ∨ place = .escape '"')
    {text : List Char} {c : Char} {out : List Lexeme} {s : Place × List Char}
    (h : lexStep (place, text) c = some (out, s)) :
    (c = '"' ∧ out = [.text text]) ∨
      (out = [] ∧ c ≠ '\n' ∧ (s.1 = .text '"' ∨ s.1 = .escape '"') ∧
        s.2.length ≤ text.length + 1) := by
  obtain ⟨⟨ts, place'⟩, hstep, h⟩ := Option.map_eq_some_iff.mp h
  obtain ⟨rfl, rfl⟩ := Prod.mk.inj h
  rcases hplace with rfl | rfl
  · simp only [step] at hstep
    split at hstep
    · -- the quotation mark that ends the text
      rename_i hc
      obtain ⟨rfl, rfl⟩ := Prod.mk.inj (Option.some.inj hstep)
      exact .inl ⟨hc, rfl⟩
    · split at hstep
      · rename_i hc
        obtain ⟨rfl, rfl⟩ := Prod.mk.inj (Option.some.inj hstep)
        refine .inr ⟨rfl, ?_, .inr rfl, length_gather_le (.text '"') text c⟩
        rw [hc]
        decide
      · split at hstep
        · cases hstep
        · rename_i hline
          obtain ⟨rfl, rfl⟩ := Prod.mk.inj (Option.some.inj hstep)
          exact .inr ⟨rfl, fun hc => hline (.inl hc), .inl rfl, length_gather_le (.text '"') text c⟩
  · simp only [step] at hstep
    split at hstep
    · rename_i hc
      obtain ⟨rfl, rfl⟩ := Prod.mk.inj (Option.some.inj hstep)
      refine .inr ⟨rfl, ?_, .inl rfl, length_gather_le (.escape '"') text c⟩
      rintro rfl
      exact absurd hc (by decide)
    · cases hstep

/-- **What a text stands for is no longer than what is written.** From the inside of a text, reading
stays in it, or comes to its end before the line ends. The induction is on the characters, with the
text growing by at most one for each of them. -/
theorem length_text_le {place : Place} (hplace : place = .text '"' ∨ place = .escape '"')
    {text cs : List Char} {ls : List Lexeme} {s : Place × List Char}
    (h : transduce lexStep (place, text) cs = some (ls, s)) :
    (ls = [] ∧ s.1 ≠ .between) ∨
      ∃ t ls' xs ys, ls = .text t :: ls' ∧ cs = xs ++ '"' :: ys ∧ '\n' ∉ xs ∧
        t.length ≤ text.length + xs.length := by
  induction cs generalizing place text ls with
  | nil =>
      obtain ⟨rfl, rfl⟩ := Prod.mk.inj (Option.some.inj h)
      rcases hplace with rfl | rfl <;> exact .inl ⟨rfl, nofun⟩
  | cons c cs ih =>
      obtain ⟨⟨out, s₁⟩, hstep, h⟩ := Option.bind_eq_some_iff.mp h
      obtain ⟨⟨ls₁, s₂⟩, hrest, h⟩ := Option.map_eq_some_iff.mp h
      obtain ⟨rfl, rfl⟩ := Prod.mk.inj h
      rcases lexStep_inside hplace hstep with ⟨rfl, rfl⟩ | ⟨rfl, hline, hinside, hlength⟩
      · exact .inr ⟨text, ls₁, [], cs, rfl, rfl, List.not_mem_nil, Nat.le_refl _⟩
      · rcases ih hinside hrest with hopen | ⟨t, ls', xs, ys, rfl, rfl, hxs, ht⟩
        · exact .inl hopen
        · refine .inr ⟨t, ls', c :: xs, ys, rfl, rfl, ?_, ?_⟩
          · rw [List.mem_cons, not_or]
            exact ⟨hline.symm, hxs⟩
          · rw [List.length_cons]
            omega

/-! ## The script that puts fields aside -/

/-- The lines of the script in front of the field to parse. -/
def beforeField : List Char :=
  ((Text.unlines [
    "",
    "function parser_nest(tag, timestamp, record)",
    "  local nested = \x7b\x7d",
    "  for k, v in pairs(record) do"]) ++ "    if k ~= \"").toList

/-- The lines of the script behind the field to parse. -/
def behindField : List Char :=
  (Text.unlines [
    " then",
    "      nested[k] = v",
    "      record[k] = nil",
    "    end",
    "  end",
    "  record[\"" ++ Script.storeKey ++ "\"] = nested",
    "  return 2, timestamp, record",
    "end"]).toList

theorem toList_nest (field : String) :
    (Script.nest field).toList = beforeField ++ (field.toList ++ '"' :: behindField) := by
  have hquote : "\" then".toList = '"' :: " then".toList := by simp
  simp only [Script.nest, beforeField, behindField, toList_unlines, String.toList_append,
    List.flatMap_cons, List.append_assoc, List.flatMap_nil, List.nil_append, List.cons_append, hquote]

/-- The tokens in front of the field to parse. -/
def lexemesBefore : List Lexeme :=
  [.word "function", .word "parser_nest", .symbol "(", .word "tag", .symbol ",", .word "timestamp",
    .symbol ",", .word "record", .symbol ")", .word "local", .word "nested", .symbol "=",
    .symbol "\x7b", .symbol "\x7d"] ++ loopHead

/-- The tokens behind the field to parse. -/
def lexemesBehind : List Lexeme :=
  loopTail ++ [.word "record", .symbol "[", .text Script.storeKey.toList, .symbol "]",
    .symbol "=", .word "nested", .word "return", .token .number, .symbol ",", .word "timestamp",
    .symbol ",", .word "record", .word "end"]

theorem transduce_beforeField :
    transduce lexStep (.between, []) beforeField = some (lexemesBefore, .text '"', []) := by
  rw [beforeField, String.toList_append, toList_unlines]
  decide +kernel

theorem transduce_behindField :
    transduce lexStep (.between, []) behindField = some (lexemesBehind, .between, []) := by
  rw [behindField, toList_unlines]
  decide +kernel

/-- The text behind the head of the loop is what the loop spares, if its tail follows. -/
theorem sparedName?_loop (name : List Char) (rest : List Lexeme) :
    sparedName? (lexemesBefore ++ .text name :: rest)
      = if rest.take loopTail.length = loopTail then some name else none := by
  have hloop : (lexemesBefore ++ .text name :: rest).dropWhile (· ≠ .word "for")
      = loopHead ++ .text name :: rest := rfl
  rw [sparedName?, hloop, List.drop_left, List.take_left]
  simp

/-- The script is read up to the field, and then goes on from the inside of a text. -/
theorem lexemes_nest (field : String) :
    lexemes (Script.nest field)
      = ((transduce lexStep (.text '"', []) (field.toList ++ '"' :: behindField)).bind
          finished).map (lexemesBefore ++ ·) := by
  rw [lexemes, toList_nest, transduce_append transduce_beforeField]
  cases transduce lexStep (.text '"', []) (field.toList ++ '"' :: behindField) with
  | none => rfl
  | some x =>
      obtain ⟨ls, place, text⟩ := x
      cases place <;> rfl

/-- A field whose characters stand for themselves is left in place. -/
theorem leftField?_nest_of_plain {field : String} (h : ∀ c ∈ field.toList, Plain c) :
    leftField? (Script.nest field) = some field := by
  have hquote : lexStep (.text '"', field.toList) '"' = some ([.text field.toList], .between, []) :=
    rfl
  have hread : transduce lexStep (.text '"', []) (field.toList ++ '"' :: behindField)
      = some (.text field.toList :: lexemesBehind, .between, []) := by
    rw [transduce_append (transduce_plain h []), List.nil_append, transduce_cons hquote,
      transduce_behindField]
    rfl
  rw [leftField?, lexemes_nest, hread]
  show (sparedName? (lexemesBefore ++ .text field.toList :: lexemesBehind)).map String.ofList = _
  rw [sparedName?_loop, lexemesBehind, if_pos List.take_left]
  simp

/-- Between the field and the next quotation mark its line ends. -/
theorem then_of_quote {xs ys : List Char} (h : behindField = xs ++ '"' :: ys) :
    " then\n".toList <+: xs := by
  have hline : " then\n".toList <+: xs ++ '"' :: ys := by
    rw [← h, behindField, toList_unlines, List.flatMap_cons]
    simp
  rcases List.prefix_or_prefix_of_prefix hline (List.prefix_append xs _) with hxs | ⟨zs, hzs⟩
  · exact hxs
  · -- the line would go on with the quotation mark
    cases zs with
    | nil => exact ⟨[], by simp [← hzs]⟩
    | cons z zs =>
        rw [← hzs, List.prefix_append_right_inj] at hline
        obtain ⟨rfl, -⟩ := List.cons_prefix_cons.mp hline
        have hmem : '"' ∈ " then\n".toList := hzs ▸ List.mem_append_right xs (List.mem_cons_self ..)
        simp at hmem

/-- No quotation mark stands on the line behind the field. -/
theorem quote_notMem_line {xs ys : List Char} (h : behindField = xs ++ '"' :: ys) : '\n' ∈ xs :=
  (then_of_quote h).subset (by simp)

/-- **A field with a character that does not stand for itself** is not what the script compares with:
that text ends in front of the character, or is shorter. -/
theorem text_ne_of_not_plain {field : List Char} (h : ¬ ∀ c ∈ field, Plain c) {ls : List Lexeme}
    {text : List Char}
    (hread : transduce lexStep (.text '"', []) (field ++ '"' :: behindField)
      = some (ls, .between, text)) : ∃ t ls', ls = .text t :: ls' ∧ t ≠ field := by
  push Not at h
  obtain ⟨c₀, hc₀, hnot⟩ := h
  obtain ⟨c, hfind⟩ := Option.isSome_iff_exists.mp
    (List.find?_isSome.mpr ⟨c₀, hc₀, by simpa using hnot⟩ :
      (field.find? fun c => !decide (Plain c)).isSome)
  obtain ⟨hc, as, bs, rfl, has⟩ := List.find?_eq_some_iff_append.mp hfind
  rw [List.append_assoc, transduce_append (transduce_plain (by simpa using has) [])] at hread
  obtain ⟨⟨ls₁, s₁⟩, hfrom, he⟩ := Option.map_eq_some_iff.mp hread
  obtain ⟨rfl, rfl⟩ := Prod.mk.inj he
  clear hread he hfind hc₀ hnot
  rw [List.nil_append, List.cons_append] at hfrom
  have hspecial : c = '"' ∨ c = '\\' ∨ c = '\n' ∨ c = '\r' := by
    simpa [Plain, List.mem_cons] using hc
  rcases hspecial with rfl | rfl | rfl | rfl
  · -- the field ends the text itself
    rw [transduce_cons (show lexStep (.text '"', as) '"' = some ([.text as], .between, []) from rfl)]
      at hfrom
    obtain ⟨⟨ls₂, s₂⟩, -, he⟩ := Option.map_eq_some_iff.mp hfrom
    obtain ⟨rfl, -⟩ := Prod.mk.inj he
    exact ⟨as, ls₂, rfl, by simp⟩
  · rw [transduce_cons (show lexStep (.text '"', as) '\\' = some ([], .escape '"', as) from rfl)]
      at hfrom
    obtain ⟨⟨ls₂, s₂⟩, hrest, he⟩ := Option.map_eq_some_iff.mp hfrom
    obtain ⟨rfl, rfl⟩ := Prod.mk.inj he
    rcases length_text_le (.inr rfl) hrest with ⟨-, hopen⟩ | ⟨t, ls', xs, ys, rfl, hxs, hline, ht⟩
    · exact absurd rfl hopen
    · refine ⟨t, ls', rfl, ?_⟩
      rintro rfl
      -- to be as long as the field, the text would have to go on behind it
      rw [List.length_append, List.length_cons] at ht
      rcases List.append_eq_append_iff.mp hxs with ⟨zs, rfl, hzs⟩ | ⟨zs, rfl, -⟩
      · cases zs with
        | nil =>
            rw [List.append_nil] at ht
            omega
        | cons z zs =>
            obtain ⟨-, hbehind⟩ := List.cons.inj hzs
            refine hline (List.mem_append_right _ (List.mem_cons_of_mem _ ?_))
            exact quote_notMem_line hbehind
      · rw [List.length_append] at ht
        omega
  · exact nomatch hfrom
  · exact nomatch hfrom

/-- **The script leaves the field to parse in place** exactly if each of its characters stands for
itself between quotation marks. -/
theorem leftField?_nest {field : String} :
    leftField? (Script.nest field) = some field ↔ ∀ c ∈ field.toList, Plain c := by
  refine ⟨fun h => ?_, leftField?_nest_of_plain⟩
  by_contra hplain
  obtain ⟨name, hname, hfield⟩ := Option.map_eq_some_iff.mp h
  obtain ⟨ls, hls, hspared⟩ := Option.bind_eq_some_iff.mp hname
  rw [lexemes_nest] at hls
  obtain ⟨ls', hfinished, rfl⟩ := Option.map_eq_some_iff.mp hls
  obtain ⟨⟨ls₁, place, text⟩, hread, hends⟩ := Option.bind_eq_some_iff.mp hfinished
  cases place with
  | between =>
      obtain rfl := Option.some.inj hends
      obtain ⟨t, rest, rfl, hne⟩ := text_ne_of_not_plain hplain hread
      rw [sparedName?_loop] at hspared
      split at hspared
      · obtain rfl := Option.some.inj hspared
        refine hne ?_
        rw [← hfield, String.toList_ofList]
      · exact nomatch hspared
  | _ => exact nomatch hends

end Lua

namespace Statement

/-! ## Texts in a statement -/

/-- A token of a statement. -/
inductive Token where
  | word (cs : List Char)
  | symbol (c : Char)
  /-- A text, with what it stands for. -/
  | text (cs : List Char)
  deriving DecidableEq

/-- What the reader is in the middle of. -/
inductive Place where
  | between
  | word (cs : List Char)
  | text (cs : List Char)
  /-- Behind a backslash in a text. -/
  | escape (cs : List Char)
  deriving DecidableEq

/-- Reads a character between tokens. -/
def start (c : Char) : List Token × Place :=
  if c = ' ' then ([], .between)
  else if c = '"' then ([], .text [])
  else if Lua.isWordChar c then ([], .word [c])
  else ([.symbol c], .between)

/-- Reads one character. -/
def step : Place → Char → Option (List Token × Place)
  | .between, c => some (start c)
  | .word cs, c =>
    if Lua.isWordChar c then some ([], .word (cs ++ [c]))
    else some (.word cs :: (start c).1, (start c).2)
  | .text cs, c =>
    if c = '"' then some ([.text cs], .between)
    else if c = '\\' then some ([], .escape cs)
    else some ([], .text (cs ++ [c]))
  | .escape cs, c => if c = '\\' ∨ c = '"' then some ([], .text (cs ++ [c])) else none

/-- The tokens that were read, if a statement can end here. -/
def finished : List Token × Place → Option (List Token)
  | (ts, .between) => some ts
  | (ts, .word cs) => some (ts ++ [.word cs])
  | _ => none

/-- The tokens of a statement. -/
def tokens? (s : String) : Option (List Token) :=
  (transduce step .between s.toList).bind finished

/-- A part of a statement that begins and ends between tokens, with its tokens. -/
def Reads (s : String) (ts : List Token) : Prop :=
  transduce step .between s.toList = some (ts, .between)

instance (s : String) (ts : List Token) : Decidable (Reads s ts) :=
  inferInstanceAs (Decidable (_ = _))

theorem Reads.append {s s' : String} {ts ts' : List Token} (h : Reads s ts) (h' : Reads s' ts') :
    Reads (s ++ s') (ts ++ ts') := by
  rw [Reads, String.toList_append, transduce_append h, h']
  rfl

/-- A part in front of the rest of a statement. -/
theorem Reads.tokens?_append {s : String} {ts : List Token} (h : Reads s ts) (s' : String) :
    tokens? (s ++ s') = (tokens? s').map (ts ++ ·) := by
  rw [tokens?, String.toList_append, transduce_append h, tokens?]
  cases transduce step .between s'.toList with
  | none => rfl
  | some x =>
      obtain ⟨ts', place⟩ := x
      cases place with
      | word cs => exact congrArg some (List.append_assoc ts ts' _)
      | _ => rfl

theorem Reads.tokens? {s : String} {ts : List Token} (h : Reads s ts) : tokens? s = some ts := by
  rw [Statement.tokens?, h]
  rfl

/-- A character of a literal is read as one of the text. -/
theorem transduce_quotedChar (text : List Char) (c : Char) :
    transduce step (.text text) (quotedChar c) = some ([], .text (text ++ [c])) := by
  by_cases hc : c = '\\' ∨ c = '"'
  · have hbackslash : step (.text text) '\\' = some ([], .escape text) := rfl
    have hescaped : step (.escape text) c = some ([], .text (text ++ [c])) := if_pos hc
    rw [quotedChar, if_pos (by simpa using hc), transduce_cons hbackslash, transduce_cons hescaped]
    rfl
  · have hstep : step (.text text) c = some ([], .text (text ++ [c])) := by
      rw [not_or] at hc
      rw [step, if_neg hc.2, if_neg hc.1]
    rw [quotedChar, if_neg (by simpa using hc), transduce_cons hstep]
    rfl

/-- **A literal stands for what it was made from**, whatever characters that has. -/
theorem reads_quote (s : String) : Reads (quote s) [.text s.toList] := by
  have hinside : ∀ cs text, transduce step (.text text) (cs.flatMap quotedChar)
      = some ([], .text (text ++ cs)) := by
    intro cs
    induction cs with
    | nil => simp [transduce]
    | cons c cs ih =>
        intro text
        rw [List.flatMap_cons, transduce_append (transduce_quotedChar text c), ih]
        simp
  have hopens : step .between '"' = some ([], .text []) := rfl
  have hends : step (.text s.toList) '"' = some ([.text s.toList], .between) := rfl
  rw [Reads, quote, String.toList_ofList, transduce_cons hopens,
    transduce_append (hinside s.toList []), List.nil_append, transduce_cons hends]
  rfl

/-! ## Dollar signs in a text -/

/-- What the collector makes of the dollar signs of a text, of which two are one; one alone refers to
a variable, so that it is open what the text stands for. -/
def undollared : List Char → Option (List Char)
  | '$' :: '$' :: cs => (undollared cs).map ('$' :: ·)
  | c :: cs => if c = '$' then none else (undollared cs).map (c :: ·)
  | [] => some []

theorem count_undollared {cs ds : List Char} (h : undollared cs = some ds) :
    2 * ds.count '$' = cs.count '$' := by
  induction cs using undollared.induct generalizing ds with
  | case1 cs ih =>
      obtain ⟨ds', hds, rfl⟩ := Option.map_eq_some_iff.mp h
      simp only [List.count_cons_self, ← ih hds]
      omega
  | case2 cs hne => simp [undollared] at h
  | case3 c cs hne hc ih =>
      rw [undollared, if_neg hc] at h
      · obtain ⟨ds', hds, rfl⟩ := Option.map_eq_some_iff.mp h
        simp only [List.count_cons_of_ne hc, ih hds]
      · exact hne
  | case4 =>
      obtain rfl := Option.some.inj h
      rfl

/-- A text stands for itself exactly if it has no dollar sign. -/
theorem undollared_eq_self_iff {cs : List Char} : undollared cs = some cs ↔ '$' ∉ cs := by
  refine ⟨fun h => ?_, fun h => ?_⟩
  · have := count_undollared h
    exact List.count_eq_zero.mp (by omega)
  · induction cs with
    | nil => rfl
    | cons c cs ih =>
        rw [List.mem_cons, not_or] at h
        rw [undollared, if_neg (Ne.symm h.1), ih h.2]
        · rfl
        · exact fun _ hc _ => h.1 hc.symm

end Statement

end Telemetry
