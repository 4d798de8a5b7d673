import Mathlib.Data.List.Basic
import Telemetry.Text.Blank
import Telemetry.Yaml.Document

/-!
# Texts of white space

A text that only holds white space is a configuration without domains, whatever document it is.
Some characters that count as white space are letters for the document, so that such a text need not
be empty as a document; but none of them begins or ends a collection, so that it is one scalar at
most (**`Document.eq_scalar_of_isBlankText`**).
-/

namespace Telemetry.Yaml

open Text (isBlank)

/-! ## What is left of a text -/

theorem Cursor.skip_subset (c : Cursor) (n : Nat) : (c.skip n).rest ⊆ c.rest :=
  List.drop_subset n c.rest

theorem Cursor.skipComment_subset (c : Cursor) : c.skipComment.rest ⊆ c.rest := by
  rw [skipComment]
  split
  · exact c.skip_subset _
  · exact List.Subset.refl _

theorem Lexer.skipMark_subset (c : Cursor) : (skipMark c).rest ⊆ c.rest := by
  rw [skipMark]
  split
  · exact c.skip_subset 1
  · exact List.Subset.refl _

theorem Lexer.skipToToken?_subset {inFlow keyAllowed keyAllowed' : Bool} {fuel : Nat}
    {c c' : Cursor} (h : skipToToken? inFlow fuel keyAllowed c = some (keyAllowed', c')) :
    c'.rest ⊆ c.rest := by
  induction fuel generalizing keyAllowed c with
  | zero => exact nomatch h
  | succ fuel ih =>
      have hskip : ∀ p, ((skipMark c).span p).2.skipComment.rest ⊆ c.rest := fun p =>
        List.Subset.trans (Cursor.skipComment_subset _)
          (List.Subset.trans (Cursor.skip_subset _ _) (skipMark_subset c))
      simp only [skipToToken?] at h
      split at h
      · split at h
        · exact List.Subset.trans (ih h) (List.Subset.trans (List.drop_subset 1 _) (hskip _))
        · obtain ⟨_, rfl⟩ := Prod.mk.inj (Option.some.inj h)
          exact hskip _
      · obtain ⟨_, rfl⟩ := Prod.mk.inj (Option.some.inj h)
        exact hskip _

theorem Gap.read?_subset {indent line column : Nat} {g g' : Gap} {cs : List Char} {c : Cursor}
    (h : Gap.read? indent g line column cs = some (g', c)) : c.rest ⊆ cs := by
  induction cs generalizing g line column with
  | nil =>
      obtain ⟨_, rfl⟩ := Prod.mk.inj (Option.some.inj h)
      exact List.Subset.refl _
  | cons ch cs ih =>
      rw [Gap.read?] at h
      split at h
      · split at h
        · split at h
          · exact nomatch h
          · exact List.subset_cons_of_subset ch (ih h)
        · exact List.subset_cons_of_subset ch (ih h)
      · split at h
        · exact List.subset_cons_of_subset ch (ih h)
        · obtain ⟨_, rfl⟩ := Prod.mk.inj (Option.some.inj h)
          exact List.Subset.refl _

theorem plainWords?_subset {inFlow atLineStart : Bool} {indent fuel : Nat} {text text' : List Char}
    {gap : Gap} {c c' : Cursor}
    (h : plainWords? inFlow indent fuel text gap c = some (text', atLineStart, c')) :
    c'.rest ⊆ c.rest := by
  induction fuel generalizing text gap c with
  | zero => exact nomatch h
  | succ fuel ih =>
      rw [plainWords?] at h
      split at h
      · cases h
        exact List.Subset.refl _
      · obtain ⟨word, _, h⟩ := Option.bind_eq_some_iff.mp h
        split at h
        · cases h
          exact List.Subset.refl _
        · dsimp only at h
          split at h
          · obtain ⟨⟨gap', c₁⟩, hgap, h⟩ := Option.bind_eq_some_iff.mp h
            have hread := List.Subset.trans (Gap.read?_subset hgap) (c.skip_subset word.length)
            split at h
            · cases h
              exact hread
            · exact List.Subset.trans (ih h) hread
          · cases h
            exact c.skip_subset word.length

/-! ## The tokens of a text of white space -/

namespace Lexer

/-- Nothing but plain scalars was read, and there is only white space to come. -/
structure Blank (l : Lexer) : Prop where
  rest : ∀ ch ∈ l.cursor.rest, isBlank ch
  indents : l.indents = []
  outer : l.outer = []
  read : ∀ t ∈ l.read, ∃ text, t = .scalar true text

theorem dropKey?_eq_some {l l' : Lexer} (h : l.dropKey? = some l') :
    ∃ k, l' = { l with pending := k } := by
  obtain ⟨k, _, rfl⟩ := Option.map_eq_some_iff.mp h
  exact ⟨k, rfl⟩

theorem saveKey?_eq_some {l l' : Lexer} (h : l.saveKey? = some l') :
    ∃ k, l' = { l with pending := k } := by
  rw [saveKey?] at h
  split at h
  · obtain ⟨l₁, hdrop, h⟩ := Option.bind_eq_some_iff.mp h
    obtain ⟨k, rfl⟩ := dropKey?_eq_some hdrop
    obtain rfl := Option.some.inj h
    exact ⟨_, rfl⟩
  · obtain rfl := Option.some.inj h
    exact ⟨l.pending, rfl⟩

/-- Where no collection is open, none ends. -/
theorem Blank.unindent {l : Lexer} (hl : l.Blank) (ends : Nat → Bool) :
    (l.unindent ends).Blank := by
  rw [Lexer.unindent]
  split
  · exact hl
  · simp only [hl.indents, List.takeWhile_nil, List.dropWhile_nil, List.length_nil,
      List.replicate_zero, List.nil_append]
    exact ⟨hl.rest, rfl, hl.outer, hl.read⟩

theorem Blank.advance? {l l' : Lexer} (hl : l.Blank) (h : l.advance? = some l') : l'.Blank := by
  obtain ⟨⟨keyAllowed, c⟩, hskip, h⟩ := Option.bind_eq_some_iff.mp h
  obtain ⟨l₁, hdrop, h⟩ := Option.bind_eq_some_iff.mp h
  obtain ⟨pending, _, hdrop⟩ := Option.bind_eq_some_iff.mp hdrop
  obtain ⟨outer, houter, hdrop⟩ := Option.bind_eq_some_iff.mp hdrop
  obtain rfl := Option.some.inj hdrop
  obtain rfl := Option.some.inj h
  obtain rfl : outer = [] := by simpa [hl.outer, eq_comm] using houter
  have hnext : Blank { l with keyAllowed, cursor := c, pending, outer := [] } :=
    ⟨fun ch hch => hl.rest ch (skipToToken?_subset hskip hch), hl.indents, rfl, hl.read⟩
  exact hnext.unindent _

/-- **White space is read as plain scalars**, since no other token begins with it. -/
theorem Blank.token? {l l' : Lexer} (hl : l.Blank) (h : l.token? = some l') : l'.Blank := by
  cases hrest : l.cursor.rest with
  | nil =>
      rw [Lexer.token?] at h
      simp [hrest] at h
  | cons ch cs =>
      have hblank : isBlank ch = true := hl.rest ch (by rw [hrest]; exact List.mem_cons_self)
      have hne : ∀ d, isBlank d = false → ch ≠ d := by
        rintro d hd rfl
        exact Bool.false_ne_true (hd.symm.trans hblank)
      have hmark : l.cursor.atDocumentMark = false := by
        rw [Cursor.atDocumentMark, hrest]
        split
        · rename_i heq
          exact absurd (List.cons.inj heq).1 (hne '-' rfl)
        · rename_i heq
          exact absurd (List.cons.inj heq).1 (hne '.' rfl)
        · exact Bool.and_false _
      have hplain : l.token?
          = if startsPlain l.inFlow (ch :: cs) then l.plainScalar? else none := by
        simp [Lexer.token?, hrest, hmark, hne '%' rfl, hne '[' rfl, hne '\x7b' rfl, hne ']' rfl,
          hne '\x7d' rfl, hne ',' rfl, hne '-' rfl, hne '?' rfl, hne ':' rfl, hne '*' rfl,
          hne '&' rfl, hne '!' rfl, hne '|' rfl, hne '>' rfl, hne '\'' rfl, hne '"' rfl]
      rw [hplain] at h
      split at h
      · obtain ⟨l₁, hsave, h⟩ := Option.bind_eq_some_iff.mp h
        obtain ⟨k, rfl⟩ := saveKey?_eq_some hsave
        obtain ⟨⟨t, atLineStart, c⟩, hread, h⟩ := Option.bind_eq_some_iff.mp h
        obtain rfl := Option.some.inj h
        obtain ⟨⟨text, _, _⟩, hwords, hread⟩ := Option.map_eq_some_iff.mp hread
        cases hread
        refine ⟨fun ch hch => hl.rest ch (plainWords?_subset hwords hch), hl.indents, hl.outer, ?_⟩
        intro t ht
        cases ht with
        | head => exact ⟨_, rfl⟩
        | tail _ ht => exact hl.read t ht
      · exact nomatch h

theorem Blank.finish? {l : Lexer} {ts : List Token} (hl : l.Blank) (h : l.finish? = some ts) :
    ∀ t ∈ ts, ∃ text, t = .scalar true text := by
  obtain ⟨l', hdrop, rfl⟩ := Option.map_eq_some_iff.mp h
  obtain ⟨k, rfl⟩ := dropKey?_eq_some hdrop
  exact fun t ht => (hl.unindent _).read t (List.mem_reverse.mp ht)

theorem Blank.run? {fuel : Nat} {l : Lexer} {ts : List Token} (hl : l.Blank)
    (h : run? fuel l = some ts) : ∀ t ∈ ts, ∃ text, t = .scalar true text := by
  induction fuel generalizing l with
  | zero => exact nomatch h
  | succ fuel ih =>
      obtain ⟨l', hadvance, h⟩ := Option.bind_eq_some_iff.mp h
      have hl' := hl.advance? hadvance
      split at h
      · exact hl'.finish? h
      · obtain ⟨l'', htoken, h⟩ := Option.bind_eq_some_iff.mp h
        exact ih (hl'.token? htoken) h

end Lexer

theorem isBlank_of_mem_unifyBreaks {cs : List Char} (hcs : ∀ c ∈ cs, isBlank c) :
    ∀ c ∈ unifyBreaks cs, isBlank c := by
  induction cs using unifyBreaks.induct with
  | case1 cs ih =>
      rw [unifyBreaks, List.forall_mem_cons]
      exact ⟨rfl, ih fun c hc => hcs c (List.mem_cons_of_mem _ (List.mem_cons_of_mem _ hc))⟩
  | case2 c cs hbreak ih =>
      rw [unifyBreaks, List.forall_mem_cons]
      · refine ⟨?_, ih fun c hc => hcs c (List.mem_cons_of_mem _ hc)⟩
        split
        · rfl
        · exact hcs c List.mem_cons_self
      · exact hbreak
  | case3 => simp [unifyBreaks]

theorem isBlank_of_mem_sourceChars? {s : String} {cs : List Char} (hs : Text.isBlankText s)
    (h : sourceChars? s = some cs) : ∀ c ∈ cs, isBlank c := by
  have hall : ∀ c ∈ s.toList, isBlank c := List.all_eq_true.mp hs
  rw [sourceChars?] at h
  cases hcs : s.toList with
  | nil =>
      rw [hcs] at h
      obtain rfl := Option.some.inj h
      exact fun c hc => nomatch hc
  | cons ch rest =>
      -- the byte order mark is not white space, so that none is taken off
      have hmark : ch ≠ byteOrderMark := by
        rintro rfl
        exact absurd (hall _ (by rw [hcs]; exact List.mem_cons_self)) (by decide)
      rw [hcs] at h
      simp only [if_neg hmark] at h
      split at h
      · obtain rfl := Option.some.inj h
        exact isBlank_of_mem_unifyBreaks (hcs ▸ hall)
      · exact nomatch h

/-- A document that begins with a plain scalar is that scalar. -/
theorem Element.eq_scalar_of_ofTokens? {text : String} {ts : List Token} {e : Element}
    (h : ofTokens? (.scalar true text :: ts) = some (some e)) :
    e = .scalar none none true text := by
  have helement : ∀ fuel ts, element? Handles.default (fuel + 1) true false []
      (.scalar true text :: ts) = some (.scalar none none true text, [], ts) := by
    intro fuel ts
    simp [element?, properties?]
  simp only [ofTokens?, List.head?_cons, Option.any_some, announcesDocument, helement,
    List.isEmpty_cons, Bool.false_eq_true, if_false] at h
  obtain ⟨_, hroot, h⟩ := Option.bind_eq_some_iff.mp h
  cases hroot
  obtain ⟨_, hroot, h⟩ := Option.bind_eq_some_iff.mp h
  cases hroot
  split at h
  · exact (Option.some.inj (Option.some.inj h)).symm
  · exact nomatch h

/-- **A text of white space is one scalar at most.** -/
theorem Document.eq_scalar_of_isBlankText {s : String} {d : Document} (hs : Text.isBlankText s)
    (h : Document.parse? s = some (some d)) :
    ∃ tag isPlain text, d = .scalar tag isPlain text := by
  obtain ⟨cs, hcs, h⟩ := Option.bind_eq_some_iff.mp h
  obtain ⟨ts, hts, h⟩ := Option.bind_eq_some_iff.mp h
  obtain ⟨root, hroot, h⟩ := Option.bind_eq_some_iff.mp h
  have hscalars := Lexer.Blank.run? ⟨isBlank_of_mem_sourceChars? hs hcs, rfl, rfl,
    fun _ ht => absurd ht List.not_mem_nil⟩ hts
  cases root with
  | none => exact nomatch h
  | some e =>
      cases ts with
      | nil => exact nomatch hroot
      | cons t ts =>
          obtain ⟨text, rfl⟩ := hscalars t List.mem_cons_self
          obtain rfl := Element.eq_scalar_of_ofTokens? hroot
          obtain ⟨d', hd, h⟩ := Option.bind_eq_some_iff.mp h
          obtain rfl := Option.some.inj (Option.some.inj h)
          have hdocument : Element.toDocument? (.scalar none none true text)
              = some (.scalar none true text) := by
            simp [Element.toDocument?, Element.maxDepth, Element.expand?]
          rw [hdocument] at hd
          obtain rfl := Option.some.inj hd
          exact ⟨none, true, text, rfl⟩

end Telemetry.Yaml
