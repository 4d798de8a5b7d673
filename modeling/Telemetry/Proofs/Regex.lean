import Telemetry.Pattern

/-!
# A reader and a meaning for the generated regular expressions

Generated files carry regular expressions in a small part of the usual syntax: characters, escaped
characters, the dot, the star, alternation, groups and the two anchors. This file reads that syntax
into a tree and says which texts a tree matches, so that what an expression *means* can be compared
with what it was generated *for*.

* **`Regex.Spans`** — a tree spans the middle of a text, given what stands before and after it; the
  anchors are the only nodes that look at either side.
* **`Regex.parse?`** — the reader: characters to tokens, tokens to a tree. An operator outside the
  fragment makes it give up, it is never read as something else.
* **`tokens_escape`** — an escaped text is read as its characters, whatever they are. This is where
  a forgotten special character would show.
* **`parse_anchored_group`** — `^(…)$` around alternatives matches exactly the texts that one of
  the alternatives spans as a whole.
-/

namespace Telemetry

/-- A regular expression of the generated fragment. -/
inductive Regex where
  /-- Matches nothing but the empty text. -/
  | empty
  | char (c : Char)
  /-- Any character but a line feed. -/
  | dot
  /-- The anchor for the start of the text. -/
  | textStart
  /-- The anchor for the end of the text. -/
  | textEnd
  | cat (a b : Regex)
  | alt (a b : Regex)
  | star (a : Regex)
  deriving DecidableEq, Repr

namespace Regex

/-- Several spans of one kind, each directly behind the one before. -/
inductive Repeats (P : List Char → List Char → List Char → Prop) :
    List Char → List Char → List Char → Prop where
  | done (before after : List Char) : Repeats P before [] after
  | more (before u v after : List Char) :
      P before u (v ++ after) → Repeats P (before ++ u) v after →
      Repeats P before (u ++ v) after

/-- The expression matches the middle of a text that goes on at both sides. -/
def Spans : Regex → List Char → List Char → List Char → Prop
  | .empty, _, mid, _ => mid = []
  | .char c, _, mid, _ => mid = [c]
  | .dot, _, mid, _ => ∃ c, c ≠ '\n' ∧ mid = [c]
  | .textStart, before, mid, _ => before = [] ∧ mid = []
  | .textEnd, _, mid, after => mid = [] ∧ after = []
  | .cat a b, before, mid, after =>
      ∃ u v, mid = u ++ v ∧ a.Spans before u (v ++ after) ∧ b.Spans (before ++ u) v after
  | .alt a b, before, mid, after => a.Spans before mid after ∨ b.Spans before mid after
  | .star a, before, mid, after => Repeats a.Spans before mid after

/-- The expression matches somewhere in a text. -/
def Finds (r : Regex) (text : List Char) : Prop :=
  ∃ before mid after, text = before ++ (mid ++ after) ∧ r.Spans before mid after

/-- Several expressions, one behind the other. -/
def catAll : List Regex → Regex
  | [] => .empty
  | r :: rs => .cat r (catAll rs)

/-! ## Reading -/

/-- A sign of an expression. -/
inductive Token where
  | literal (c : Char)
  | dot
  | star
  | bar
  | caret
  | dollar
  | openGroup
  | closeGroup
  deriving DecidableEq, Repr

/-- What a character means if it is not escaped. The operators outside the fragment have no token,
and a backslash has none of its own. -/
def tokenOf? (c : Char) : Option Token :=
  if c = '.' then some .dot
  else if c = '*' then some .star
  else if c = '|' then some .bar
  else if c = '^' then some .caret
  else if c = '$' then some .dollar
  else if c = '(' then some .openGroup
  else if c = ')' then some .closeGroup
  else if ['\\', '+', '?', '[', '\x7b'].contains c then none
  else some (.literal c)

/-- The signs of an expression. A backslash takes the meaning from the special character behind it;
other escapes are outside the fragment. -/
def tokens : List Char → Option (List Token)
  | [] => some []
  | '\\' :: c :: rest =>
      if Pattern.isMeta c then (tokens rest).map (.literal c :: ·) else none
  | c :: rest => (tokenOf? c).bind fun t => (tokens rest).map (t :: ·)

/-- A group while it is read: its finished alternatives, and the items of the present one with the
last in front. -/
structure Frame where
  finished : Option Regex
  items : List Regex

namespace Frame

/-- A group of which nothing has been read. -/
def start : Frame := ⟨none, []⟩

/-- Adds an item to the present alternative. -/
def push (f : Frame) (r : Regex) : Frame :=
  { f with items := r :: f.items }

/-- The group as a whole. -/
def close (f : Frame) : Regex :=
  match f.finished with
  | none => catAll f.items.reverse
  | some a => .alt a (catAll f.items.reverse)

/-- Begins the next alternative. -/
def next (f : Frame) : Frame :=
  ⟨some f.close, []⟩

/-- Lets the last item of the present alternative repeat. -/
def repeatLast? (f : Frame) : Option Frame :=
  match f.items with
  | [] => none
  | r :: rs => some { f with items := .star r :: rs }

end Frame

/-- Reads signs inside some groups that are still open, the innermost in front. -/
def read (outer : List Frame) (f : Frame) : List Token → Option Regex
  | [] => if outer.isEmpty then some f.close else none
  | .literal c :: ts => read outer (f.push (.char c)) ts
  | .dot :: ts => read outer (f.push .dot) ts
  | .caret :: ts => read outer (f.push .textStart) ts
  | .dollar :: ts => read outer (f.push .textEnd) ts
  | .star :: ts => f.repeatLast?.bind fun f => read outer f ts
  | .bar :: ts => read outer f.next ts
  | .openGroup :: ts => read (f :: outer) .start ts
  | .closeGroup :: ts =>
      match outer with
      | [] => none
      | g :: outer => read outer (g.push f.close) ts

/-- The expression that a text writes. -/
def parse? (s : String) : Option Regex :=
  (tokens s.toList).bind (read [] .start)

/-- A text that is an expression matches another text. -/
def Matches (pattern text : String) : Prop :=
  ∃ r, parse? pattern = some r ∧ r.Finds text.toList

/-! ## What escaping protects -/

/-- A character that is not special is its own sign. -/
theorem tokenOf_of_not_isMeta {c : Char} (h : Pattern.isMeta c = false) :
    tokenOf? c = some (.literal c) := by
  simp only [Pattern.isMeta, List.contains_cons, List.contains_nil, Bool.or_false,
    Bool.or_eq_false_iff, beq_eq_false_iff_ne, ne_eq] at h
  simp [tokenOf?, h]

/-- A character that has a sign of its own is read on its own, whatever follows. -/
theorem tokens_cons {c : Char} {t : Token} (hc : tokenOf? c = some t) (rest : List Char) :
    tokens (c :: rest) = (tokens rest).map (t :: ·) := by
  have hb : c ≠ '\\' := by
    rintro rfl
    exact nomatch hc
  rw [tokens.eq_3 _ _ (fun _ _ he => absurd he hb), hc]
  rfl

/-- **An escaped text is read as its characters**, in front of anything. -/
theorem tokens_escape (cs rest : List Char) :
    tokens (cs.flatMap Pattern.escapeChar ++ rest) = (tokens rest).map (cs.map .literal ++ ·) := by
  induction cs with
  | nil => simp
  | cons c cs ih =>
      rw [List.flatMap_cons, List.append_assoc, Pattern.escapeChar]
      by_cases hc : Pattern.isMeta c = true
      · rw [if_pos hc]
        show tokens ('\\' :: c :: (cs.flatMap Pattern.escapeChar ++ rest)) = _
        rw [tokens, if_pos hc, ih, Option.map_map]
        rfl
      · rw [if_neg hc]
        show tokens (c :: (cs.flatMap Pattern.escapeChar ++ rest)) = _
        rw [tokens_cons (tokenOf_of_not_isMeta (by simpa using hc)), ih, Option.map_map]
        rfl

/-! ## Texts that read as a run of items -/

/-- Adds several items to the present alternative. -/
def Frame.pushAll (f : Frame) (rs : List Regex) : Frame :=
  { f with items := rs.reverse ++ f.items }

/-- Wherever the text stands inside an alternative, it adds the same items to it. -/
def ReadsAs (s : List Char) (rs : List Regex) : Prop :=
  ∃ ts, (∀ rest, tokens (s ++ rest) = (tokens rest).map (ts ++ ·)) ∧
    ∀ outer f rest, read outer f (ts ++ rest) = read outer (f.pushAll rs) rest

/-- Two texts behind each other add the items of both. -/
theorem ReadsAs.append {s s' : List Char} {rs rs' : List Regex} (h : ReadsAs s rs)
    (h' : ReadsAs s' rs') : ReadsAs (s ++ s') (rs ++ rs') := by
  obtain ⟨ts, ht, hr⟩ := h
  obtain ⟨ts', ht', hr'⟩ := h'
  refine ⟨ts ++ ts', ?_, ?_⟩
  · intro rest
    rw [List.append_assoc, ht, ht', Option.map_map]
    congr 1
    funext x
    simp
  · intro outer f rest
    rw [List.append_assoc, hr, hr']
    simp [Frame.pushAll]

/-- Signs of characters add those characters. -/
theorem read_literals (cs : List Char) (outer : List Frame) (f : Frame) (rest : List Token) :
    read outer f (cs.map .literal ++ rest) = read outer (f.pushAll (cs.map .char)) rest := by
  induction cs generalizing f with
  | nil => simp [Frame.pushAll]
  | cons c cs ih =>
      rw [List.map_cons, List.cons_append, read, ih]
      simp [Frame.push, Frame.pushAll]

/-- An escaped text adds its characters. -/
theorem readsAs_escape (s : String) :
    ReadsAs (Pattern.escape s).toList (s.toList.map .char) := by
  refine ⟨s.toList.map .literal, ?_, read_literals s.toList⟩
  intro rest
  rw [Pattern.escape, Text.expandChars, String.toList_ofList]
  exact tokens_escape s.toList rest

/-- An escaped dot, a dot and a star add a literal dot and a run of any characters. -/
theorem readsAs_anySuffix : ReadsAs "\\..*".toList [.char '.', .star .dot] := by
  refine ⟨[.literal '.', .dot, .star], ?_, ?_⟩
  · intro rest
    show tokens ('\\' :: '.' :: '.' :: '*' :: rest) = _
    rw [tokens, if_pos (by decide), tokens_cons (t := .dot) (by decide),
      tokens_cons (t := .star) (by decide)]
    cases tokens rest with
    | none => rfl
    | some ts => rfl
  · intro outer f rest
    simp [read, Frame.push, Frame.repeatLast?, Frame.pushAll]

/-! ## What runs of items match -/

/-- Two runs of items match one behind the other. -/
theorem catAll_append (rs rs' : List Regex) (before mid after : List Char) :
    (catAll (rs ++ rs')).Spans before mid after ↔
      ∃ u v, mid = u ++ v ∧ (catAll rs).Spans before u (v ++ after) ∧
        (catAll rs').Spans (before ++ u) v after := by
  induction rs generalizing before mid with
  | nil =>
      constructor
      · intro h
        exact ⟨[], mid, rfl, rfl, by simpa using h⟩
      · rintro ⟨u, v, rfl, rfl, h⟩
        simpa using h
  | cons r rs ih =>
      simp only [List.cons_append, catAll, Spans]
      constructor
      · rintro ⟨u, v, rfl, hu, hv⟩
        obtain ⟨v₁, v₂, rfl, h₁, h₂⟩ := (ih _ _).mp hv
        refine ⟨u ++ v₁, v₂, by simp, ⟨u, v₁, rfl, by simpa using hu, h₁⟩, by simpa using h₂⟩
      · rintro ⟨w, v, rfl, ⟨u, v₁, rfl, hu, h₁⟩, h₂⟩
        refine ⟨u, v₁ ++ v, by simp, by simpa using hu, (ih _ _).mpr ?_⟩
        exact ⟨v₁, v, rfl, h₁, by simpa using h₂⟩

/-- A run of characters matches itself only. -/
theorem catAll_chars (cs before mid after : List Char) :
    (catAll (cs.map .char)).Spans before mid after ↔ mid = cs := by
  induction cs generalizing before mid with
  | nil => simp [catAll, Spans]
  | cons c cs ih =>
      simp only [List.map_cons, catAll, Spans]
      constructor
      · rintro ⟨u, v, rfl, rfl, hv⟩
        rw [(ih _ _).mp hv]
        rfl
      · rintro rfl
        exact ⟨[c], cs, rfl, rfl, (ih _ _).mpr rfl⟩

/-- The dot repeats over any run without a line feed. -/
theorem star_dot (before mid after : List Char) :
    (Regex.star .dot).Spans before mid after ↔ '\n' ∉ mid := by
  constructor
  · intro h
    have h' : Repeats Regex.dot.Spans before mid after := h
    induction h' with
    | done => simp
    | more before u v after hu _ ih =>
        obtain ⟨c, hc, rfl⟩ := hu
        simp only [List.singleton_append, List.mem_cons, not_or]
        exact ⟨fun he => hc he.symm, ih (by assumption)⟩
  · intro h
    show Repeats Regex.dot.Spans before mid after
    induction mid generalizing before with
    | nil => exact .done before after
    | cons c mid ih =>
        rw [List.mem_cons, not_or] at h
        exact .more before [c] mid after ⟨c, fun he => h.1 he.symm, rfl⟩ (ih _ h.2)

/-- Literal characters and then any suffix. -/
theorem catAll_anySuffix (cs before mid after : List Char) :
    (catAll (cs.map .char ++ [.char '.', .star .dot])).Spans before mid after ↔
      ∃ w, mid = cs ++ '.' :: w ∧ '\n' ∉ w := by
  rw [catAll_append]
  constructor
  · rintro ⟨u, v, rfl, hu, hv⟩
    rw [catAll_chars] at hu
    subst hu
    obtain ⟨_, w, rfl, rfl, x, y, rfl, hx, hy⟩ := hv
    obtain rfl : y = [] := hy
    exact ⟨x, by simp, (star_dot _ _ _).mp hx⟩
  · rintro ⟨w, rfl, hw⟩
    refine ⟨cs, '.' :: w, rfl, (catAll_chars _ _ _ _).mpr rfl, ['.'], w, rfl, rfl, w, [], ?_, ?_⟩
    · simp
    · exact ⟨(star_dot _ _ _).mpr hw, rfl⟩

/-! ## Alternatives in an anchored group -/

/-- What a group matches so far: a finished alternative or the present one. -/
theorem Frame.close_spans (f : Frame) (before mid after : List Char) :
    f.close.Spans before mid after ↔
      (∃ a, f.finished = some a ∧ a.Spans before mid after) ∨
        (catAll f.items.reverse).Spans before mid after := by
  rw [Frame.close]
  cases f.finished with
  | none => simp
  | some a => simp [Spans]

/-- Reading alternatives, up to the end of their group, adds each of them to the group. The
induction is on the alternatives; the group keeps those that are finished. -/
theorem read_alternatives (m : String × List Regex) (ms : List (String × List Regex))
    (hm : ∀ x ∈ m :: ms, ReadsAs x.1.toList x.2) :
    ∃ ts, (∀ rest, tokens ((Text.join "|" ((m :: ms).map (·.1))).toList ++ rest)
        = (tokens rest).map (ts ++ ·)) ∧
      ∀ outer d, ∃ g : Frame, (∀ rest, read outer ⟨d, []⟩ (ts ++ rest) = read outer g rest) ∧
        ∀ before mid after, g.close.Spans before mid after ↔
          (∃ a, d = some a ∧ a.Spans before mid after) ∨
            ∃ x ∈ m :: ms, (catAll x.2).Spans before mid after := by
  induction ms generalizing m with
  | nil =>
      obtain ⟨ts, ht, hr⟩ := hm m List.mem_cons_self
      refine ⟨ts, ht, ?_⟩
      intro outer d
      refine ⟨Frame.pushAll ⟨d, []⟩ m.2, fun rest => hr outer _ rest, ?_⟩
      intro before mid after
      simp [Frame.close_spans, Frame.pushAll]
  | cons m' ms ih =>
      obtain ⟨ts, ht, hr⟩ := hm m List.mem_cons_self
      obtain ⟨ts', ht', hr'⟩ := ih m' fun x hx => hm x (List.mem_cons_of_mem _ hx)
      refine ⟨ts ++ .bar :: ts', ?_, ?_⟩
      · intro rest
        have hj : (Text.join "|" ((m :: m' :: ms).map (·.1))).toList
            = m.1.toList ++ '|' :: (Text.join "|" ((m' :: ms).map (·.1))).toList := by
          simp [Text.join, String.append_assoc]
        rw [hj, List.append_assoc, ht, List.cons_append, tokens_cons (t := .bar) (by decide), ht',
          Option.map_map, Option.map_map]
        congr 1
        funext x
        simp
      · intro outer d
        obtain ⟨g, hg, hs⟩ := hr' outer (some (Frame.pushAll ⟨d, []⟩ m.2).close)
        refine ⟨g, ?_, ?_⟩
        · intro rest
          rw [List.append_assoc, hr, List.cons_append, read]
          exact hg rest
        · intro before mid after
          rw [hs]
          simp only [Option.some.injEq, exists_eq_left', Frame.close_spans, Frame.pushAll,
            List.append_nil, List.reverse_reverse, List.mem_cons, exists_eq_or_imp]
          exact or_assoc

/-- **An anchored group matches a text exactly if one of its alternatives spans all of it.** It can
be read at all, so that neither side holds for want of an expression. -/
theorem parse_anchored_group {ms : List (String × List Regex)} (hne : ms ≠ [])
    (hm : ∀ x ∈ ms, ReadsAs x.1.toList x.2) :
    ∃ r, parse? ("^(" ++ Text.join "|" (ms.map (·.1)) ++ ")$") = some r ∧
      ∀ text, r.Finds text ↔ ∃ x ∈ ms, (catAll x.2).Spans [] text [] := by
  obtain ⟨m, ms, rfl⟩ := List.exists_cons_of_ne_nil hne
  obtain ⟨ts, ht, hr⟩ := read_alternatives m ms hm
  obtain ⟨g, hg, hs⟩ := hr [Frame.start.push .textStart] none
  refine ⟨catAll [.textStart, g.close, .textEnd], ?_, ?_⟩
  · have hl : ("^(" ++ Text.join "|" ((m :: ms).map (·.1)) ++ ")$").toList
        = '^' :: '(' :: ((Text.join "|" ((m :: ms).map (·.1))).toList ++ [')', '$']) := by
      simp
    rw [parse?, hl, tokens_cons (t := .caret) (by decide), tokens_cons (t := .openGroup) (by decide),
      ht]
    show read [Frame.start.push .textStart] .start (ts ++ [.closeGroup, .dollar]) = _
    exact (hg _).trans rfl
  · intro text
    have hgroup := hs [] text []
    simp only [reduceCtorEq, false_and, exists_false, false_or] at hgroup
    rw [← hgroup]
    constructor
    · rintro ⟨before, mid, after, rfl, u, v, rfl, ⟨rfl, rfl⟩, w, x, rfl, hw, y, z, rfl, ⟨rfl, hz⟩, h⟩
      obtain rfl : z = [] := h
      obtain rfl : after = [] := by simpa using hz
      simpa using hw
    · intro h
      refine ⟨[], text, [], by simp, [], text, rfl, ⟨rfl, rfl⟩, text, [], by simp, by simpa using h,
        [], [], rfl, ⟨rfl, rfl⟩, rfl⟩

end Regex

end Telemetry
