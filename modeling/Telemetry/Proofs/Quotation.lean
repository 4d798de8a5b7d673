import Mathlib.Data.List.Basic

/-!
# Texts between quotation marks

Two languages are written with texts of the user between quotation marks: the one of scripts and the
one of the collector's statements. They agree in how such a literal is built and where it ends, and
differ in the characters that stand for themselves and in what a backslash makes of the character
behind it.

* **`Quotation.Literal`** — a complete literal, and what it denotes.
* **`Literal.unique`** — at one place there is one literal at most, so that no literal is the
  beginning of another.
* **`Quotation.Pieces`** — a text as a run of literals and of characters outside of them, which it is
  in one way only (**`Pieces.unique`**).
-/

namespace Telemetry

/-- How a language reads what stands between quotation marks. Neither the quotation mark nor the
backslash stands for itself there. -/
structure Quotation where
  /-- The characters that stand for themselves. -/
  plain : Char → Prop
  /-- What a character behind a backslash stands for, if it can stand there. -/
  escaped : Char → Option Char
  plain_quote : ¬ plain '"'
  plain_backslash : ¬ plain '\\'

namespace Quotation

/-- What is written between the quotation marks of a literal, and what that denotes. -/
inductive Inside (q : Quotation) : List Char → List Char → Prop where
  | nil : Inside q [] []
  | char {c : Char} {cs ds : List Char} :
      q.plain c → Inside q cs ds → Inside q (c :: cs) (c :: ds)
  | pair {c d : Char} {cs ds : List Char} :
      q.escaped c = some d → Inside q cs ds → Inside q ('\\' :: c :: cs) (d :: ds)

/-- A complete literal, and what it denotes. -/
def Literal (q : Quotation) (written denoted : List Char) : Prop :=
  ∃ inside, written = '"' :: (inside ++ ['"']) ∧ q.Inside inside denoted

variable {q : Quotation} {cs ds cs' ds' : List Char}

/-! ## The inside of a literal -/

namespace Inside

theorem append (h : q.Inside cs ds) (h' : q.Inside cs' ds') :
    q.Inside (cs ++ cs') (ds ++ ds') := by
  induction h with
  | nil => exact h'
  | char hc _ ih => exact .char hc ih
  | pair hd _ ih => exact .pair hd ih

/-- Characters that stand for themselves denote themselves. -/
theorem of_plain (h : ∀ c ∈ cs, q.plain c) : q.Inside cs cs := by
  induction cs with
  | nil => exact .nil
  | cons c cs ih =>
      obtain ⟨hc, hcs⟩ := List.forall_mem_cons.mp h
      exact .char hc (ih hcs)

/-- What is denoted is no longer than what is written. -/
theorem length_le (h : q.Inside cs ds) : ds.length ≤ cs.length := by
  induction h with
  | nil => exact Nat.le_refl 0
  | char _ _ ih => exact Nat.succ_le_succ ih
  | pair _ _ ih => exact Nat.le_succ_of_le (Nat.succ_le_succ ih)

/-- Where nothing is lost, every character stands for itself. -/
theorem plain_of_length_le (h : q.Inside cs ds) (hlength : cs.length ≤ ds.length) :
    cs = ds ∧ ∀ c ∈ cs, q.plain c := by
  induction h with
  | nil => exact ⟨rfl, nofun⟩
  | char hc _ ih =>
      obtain ⟨rfl, hcs⟩ := ih (Nat.le_of_succ_le_succ hlength)
      exact ⟨rfl, List.forall_mem_cons.mpr ⟨hc, hcs⟩⟩
  | pair _ h _ =>
      have hshort := h.length_le
      simp only [List.length_cons] at hlength
      omega

theorem plain_head {c : Char} (h : q.Inside (c :: cs) ds) (hc : c ≠ '\\') : q.plain c := by
  cases h with
  | char hplain _ => exact hplain
  | pair _ _ => exact absurd rfl hc

/-- A character in front of which there is no backslash stands for itself, if it is none. -/
theorem plain_of_append {b c : Char} {xs ys : List Char} (h : q.Inside (xs ++ b :: c :: ys) ds)
    (hb : b ≠ '\\') (hc : c ≠ '\\') : q.plain c := by
  generalize hcs : xs ++ b :: c :: ys = cs at h
  induction h generalizing xs with
  | nil => simp at hcs
  | char _ h ih =>
      cases xs with
      | nil =>
          obtain ⟨-, rfl⟩ := List.cons.inj hcs
          exact h.plain_head hc
      | cons x xs => exact ih (List.cons.inj hcs).2
  | pair _ h ih =>
      cases xs with
      | nil => exact absurd (List.cons.inj hcs).1 hb
      | cons x xs =>
          obtain ⟨-, hcs'⟩ := List.cons.inj hcs
          -- the backslash takes the character behind it, which is `b` if nothing else is in front
          cases xs with
          | nil =>
              obtain ⟨-, rfl⟩ := List.cons.inj hcs'
              exact h.plain_head hc
          | cons x' xs => exact ih (List.cons.inj hcs').2

/-- **A literal ends at one place**, the first quotation mark that no backslash takes. -/
theorem unique {rest rest' : List Char} (h : q.Inside cs ds) (h' : q.Inside cs' ds')
    (heq : cs ++ '"' :: rest = cs' ++ '"' :: rest') : cs = cs' ∧ ds = ds' ∧ rest = rest' := by
  induction h generalizing cs' ds' with
  | nil =>
      cases h' with
      | nil => exact ⟨rfl, rfl, (List.cons.inj heq).2⟩
      | char hc _ =>
          obtain ⟨rfl, -⟩ := List.cons.inj heq
          exact absurd hc q.plain_quote
      | pair _ _ => exact absurd (List.cons.inj heq).1 (by decide)
  | char hc h ih =>
      cases h' with
      | nil =>
          obtain ⟨rfl, -⟩ := List.cons.inj heq
          exact absurd hc q.plain_quote
      | char _ h' =>
          obtain ⟨rfl, htail⟩ := List.cons.inj heq
          obtain ⟨rfl, rfl, rfl⟩ := ih h' htail
          exact ⟨rfl, rfl, rfl⟩
      | pair _ _ =>
          obtain ⟨rfl, -⟩ := List.cons.inj heq
          exact absurd hc q.plain_backslash
  | pair hd h ih =>
      cases h' with
      | nil => exact absurd (List.cons.inj heq).1 (by decide)
      | char hc _ =>
          obtain ⟨rfl, -⟩ := List.cons.inj heq
          exact absurd hc q.plain_backslash
      | pair hd' h' =>
          obtain ⟨rfl, htail⟩ := List.cons.inj (List.cons.inj heq).2
          obtain rfl := Option.some.inj (hd.symm.trans hd')
          obtain ⟨rfl, rfl, rfl⟩ := ih h' htail
          exact ⟨rfl, rfl, rfl⟩

end Inside

/-! ## Literals -/

/-- **At one place there is one literal at most.** -/
theorem Literal.unique {written written' rest rest' : List Char} (h : q.Literal written ds)
    (h' : q.Literal written' ds') (heq : written ++ rest = written' ++ rest') :
    written = written' ∧ ds = ds' ∧ rest = rest' := by
  obtain ⟨cs, rfl, h⟩ := h
  obtain ⟨cs', rfl, h'⟩ := h'
  have hinside : cs ++ '"' :: rest = cs' ++ '"' :: rest' := by simpa using heq
  obtain ⟨rfl, rfl, rfl⟩ := h.unique h' hinside
  exact ⟨rfl, rfl, rfl⟩

/-- No beginning of a literal is one, but the whole. -/
theorem Literal.iff_whole {written written' : List Char} (h : q.Literal written ds)
    (hp : written' <+: written) :
    q.Literal written' ds' ↔ written' = written ∧ ds' = ds := by
  refine ⟨fun h' => ?_, ?_⟩
  · obtain ⟨rest, heq⟩ := hp
    obtain ⟨rfl, rfl, -⟩ := h'.unique h (by rw [heq, List.append_nil] : _ = written ++ [])
    exact ⟨rfl, rfl⟩
  · rintro ⟨rfl, rfl⟩
    exact h

/-! ## Texts with literals in them -/

/-- A part of a text with literals in it. -/
inductive Piece where
  /-- A character outside of the literals. -/
  | code (c : Char)
  /-- A literal, by what it denotes. -/
  | literal (denoted : List Char)
  deriving DecidableEq, Repr

/-- A text as a run of literals and of characters outside of them. -/
inductive Pieces (q : Quotation) : List Char → List Piece → Prop where
  | nil : Pieces q [] []
  | code {c : Char} {cs : List Char} {ps : List Piece} :
      c ≠ '"' → Pieces q cs ps → Pieces q (c :: cs) (.code c :: ps)
  | literal {written denoted cs : List Char} {ps : List Piece} :
      q.Literal written denoted → Pieces q cs ps →
      Pieces q (written ++ cs) (.literal denoted :: ps)

namespace Pieces

variable {ps ps' : List Piece}

theorem append (h : q.Pieces cs ps) (h' : q.Pieces cs' ps') : q.Pieces (cs ++ cs') (ps ++ ps') := by
  induction h with
  | nil => exact h'
  | code hc _ ih => exact .code hc ih
  | literal hw _ ih =>
      rw [List.append_assoc]
      exact .literal hw ih

/-- Characters without a quotation mark are outside of literals. -/
theorem of_bare (h : '"' ∉ cs) : q.Pieces cs (cs.map .code) := by
  induction cs with
  | nil => exact .nil
  | cons c cs ih =>
      obtain ⟨hc, hcs⟩ := not_or.mp (mt List.mem_cons.mpr h)
      exact .code (Ne.symm hc) (ih hcs)

/-- A literal is one piece. -/
theorem of_literal (h : q.Literal cs ds) : q.Pieces cs [.literal ds] := by
  have hpieces : q.Pieces (cs ++ []) [.literal ds] := .literal h .nil
  rwa [List.append_nil] at hpieces

/-- **A text falls into pieces in one way only.** -/
theorem unique (h : q.Pieces cs ps) (h' : q.Pieces cs ps') : ps = ps' := by
  induction h generalizing ps' with
  | nil =>
      generalize hcs : [] = cs at h'
      cases h' with
      | nil => rfl
      | code _ _ => exact nomatch hcs
      | literal hw _ =>
          obtain ⟨inside, rfl, -⟩ := hw
          exact nomatch hcs
  | @code c cs ps hc h ih =>
      generalize hcs : c :: cs = cs' at h'
      cases h' with
      | nil => exact nomatch hcs
      | code _ h' =>
          obtain ⟨rfl, rfl⟩ := List.cons.inj hcs
          rw [ih h']
      | literal hw _ =>
          obtain ⟨inside, rfl, -⟩ := hw
          exact absurd (List.cons.inj hcs).1 hc
  | @literal written denoted cs ps hw h ih =>
      generalize hcs : written ++ cs = cs' at h'
      cases h' with
      | nil =>
          obtain ⟨inside, rfl, -⟩ := hw
          exact nomatch hcs
      | code hc _ =>
          obtain ⟨inside, rfl, -⟩ := hw
          exact absurd (List.cons.inj hcs).1.symm hc
      | literal hw' h' =>
          obtain ⟨-, rfl, rfl⟩ := hw.unique hw' hcs
          rw [ih h']

end Pieces

end Quotation

end Telemetry
