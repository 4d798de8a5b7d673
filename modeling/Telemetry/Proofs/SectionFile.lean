import Telemetry.Proofs.Failing
import Telemetry.Proofs.Keyed
import Telemetry.Proofs.Text
import Telemetry.Section.Layout

/-!
# Reading section files

The files of the log engine are read line by line: a line in brackets opens a section, every other
line that is not blank is an indented entry, and the longest key of a section says in which column
its values begin. This file has such a reader, and says when it gives back what was written.

* **`read`** — the sections of a text, if it can be read.
* **`read_join_render`** — sections with plain keys and values of one line are read back.
* **`oneLine_of_read`** — whatever is read has values of one line, so that other sections are not.
-/

namespace Telemetry

/-! ## Texts of one line -/

/-- A text has no line break. -/
def OneLine (s : String) : Prop :=
  '\n' ∉ s.toList

instance (s : String) : Decidable (OneLine s) :=
  inferInstanceAs (Decidable (¬ _))

/-- The characters of which keys are made. -/
def keyChars : List Char :=
  "ABCDEFGHIJKLMNOPQRSTUVWXYZabcdefghijklmnopqrstuvwxyz._".toList

/-- A key is made of letters, dots and underscores. -/
def PlainKey (key : String) : Prop :=
  key ≠ "" ∧ ∀ c ∈ key.toList, c ∈ keyChars

/-- Whether a character is a letter, a dot or an underscore. -/
def isKeyChar (c : Char) : Bool :=
  c.isAlpha || c = '.' || c = '_'

/-- These are the characters of keys, and are found without going through the list. -/
theorem isKeyChar_iff {c : Char} : isKeyChar c = true ↔ c ∈ keyChars := by
  constructor
  · intro h
    have hascii : ∀ n < 128, isKeyChar (Char.ofNat n) = true → Char.ofNat n ∈ keyChars := by
      decide +kernel
    have hsmall : c.toNat < 128 := by
      have hcases : (((decide (c.val ≥ 'A'.val ∧ c.val ≤ 'Z'.val)
          || decide (c.val ≥ 'a'.val) && decide (c.val ≤ 'z'.val)) || decide (c = '.'))
          || decide (c = '_')) = true := h
      simp only [Bool.or_eq_true, Bool.and_eq_true, decide_eq_true_eq] at hcases
      rcases hcases with ((h | h) | rfl) | rfl
      · exact Nat.lt_of_le_of_lt (UInt32.le_iff_toNat_le.mp h.2) (by decide)
      · exact Nat.lt_of_le_of_lt (UInt32.le_iff_toNat_le.mp h.2) (by decide)
      · decide
      · decide
    rw [← Char.ofNat_toNat c] at h ⊢
    exact hascii _ hsmall h
  · intro h
    have hall : keyChars.all isKeyChar = true := rfl
    exact List.all_eq_true.mp hall c h

instance (key : String) : Decidable (PlainKey key) :=
  decidable_of_iff (key ≠ "" ∧ key.toList.all isKeyChar = true)
    (by simp only [PlainKey, List.all_eq_true, isKeyChar_iff])

namespace Section

/-- All values of a section are one line. -/
def OneLined (s : Section) : Prop :=
  ∀ l ∈ s.lines, OneLine l.2

/-- All keys of a section are plain. -/
def PlainKeys (s : Section) : Prop :=
  ∀ l ∈ s.lines, PlainKey l.1

end Section

namespace SectionFile

/-! ## The reader -/

/-- Whether there is nothing in a line. -/
def isBlank (line : List Char) : Bool :=
  line.all (·.isWhitespace)

/-- What a line says between brackets. -/
def header? : List Char → Option String
  | '[' :: rest => if rest.getLast? = some ']' then some (String.ofList rest.dropLast) else none
  | _ => none

/-- An entry without its indentation. -/
def indented? (line : List Char) : Option (List Char) :=
  if [' ', ' ', ' ', ' '].isPrefixOf line then some (line.drop 4) else none

/-- The key of an entry. -/
def keyOf (entry : List Char) : List Char :=
  entry.takeWhile (· ≠ ' ')

/-- The entries of one section: the values begin behind the longest key and a space. -/
def readEntries (lines : List (List Char)) : Option (List (String × String)) := do
  let entries ← lines.mapM indented?
  let width := (entries.map fun e => (keyOf e).length).foldl max 0
  return entries.map fun e => (String.ofList (keyOf e), String.ofList (e.drop (width + 1)))

/-- The lines of each section, under the kind in its header. What stands before the first header is
given apart. -/
def group : List (List Char) → List (List Char) × List (String × List (List Char))
  | [] => ([], [])
  | line :: rest =>
    if isBlank line then group rest
    else match header? line with
      | some kind => ([], (kind, (group rest).1) :: (group rest).2)
      | none => (line :: (group rest).1, (group rest).2)

/-- The sections of a text: the kind of each, and its entries in order. -/
def read (text : String) : Option (List (String × List (String × String))) :=
  match group (text.toList.splitOn '\n') with
  | ([], sections) =>
    sections.mapM fun g => (readEntries g.2).map fun entries => (g.1, entries)
  | _ => none

/-! ## Lists of optional results -/

/-- All results are there. -/
theorem mapM_eq_some {α β : Type} {f : α → Option β} {as : List α} {bs : List β} :
    as.mapM f = some bs ↔ List.Forall₂ (fun a b => f a = some b) as bs := by
  induction as generalizing bs with
  | nil =>
      rw [List.mapM_nil, List.forall₂_nil_left_iff]
      exact ⟨fun h => (Option.some.inj h).symm, fun h => congrArg some h.symm⟩
  | cons a as ih =>
      rw [List.mapM_cons]
      constructor
      · intro h
        obtain ⟨b, hb, h⟩ := Option.bind_eq_some_iff.mp h
        obtain ⟨bs', hbs, h⟩ := Option.bind_eq_some_iff.mp h
        obtain rfl := Option.some.inj h
        exact .cons hb (ih.mp hbs)
      · intro h
        cases h with
        | cons hb hbs => exact Option.bind_eq_some_iff.mpr ⟨_, hb,
            Option.bind_eq_some_iff.mpr ⟨_, ih.mpr hbs, rfl⟩⟩

/-! ## What is read has no line breaks -/

/-- The lines of a section are lines of the text. -/
theorem mem_of_mem_group {lines : List (List Char)} {line : List Char} :
    (line ∈ (group lines).1 ∨ ∃ g ∈ (group lines).2, line ∈ g.2) → line ∈ lines := by
  induction lines with
  | nil =>
      rintro (h | ⟨_, h, -⟩)
      · exact nomatch h
      · exact nomatch h
  | cons l rest ih =>
      rw [group]
      intro h
      split at h
      · exact List.mem_cons_of_mem _ (ih h)
      · split at h
        · -- the header takes the lines up to the next one, which stood apart until now
          refine List.mem_cons_of_mem _ (ih ?_)
          rcases h with h | ⟨g, hg, h⟩
          · exact nomatch h
          · rcases List.mem_cons.mp hg with rfl | hg
            · exact .inl h
            · exact .inr ⟨g, hg, h⟩
        · rcases h with h | h
          · rcases List.mem_cons.mp h with rfl | h
            · exact List.mem_cons_self
            · exact List.mem_cons_of_mem _ (ih (.inl h))
          · exact List.mem_cons_of_mem _ (ih (.inr h))

/-- **Values that are read are one line.** -/
theorem oneLine_of_read {text : String} {sections : List (String × List (String × String))}
    (h : read text = some sections) : ∀ s ∈ sections, ∀ l ∈ s.2, OneLine l.2 := by
  intro s hs l hl
  rw [read] at h
  split at h
  · rename_i groups hgroup
    obtain ⟨⟨kind, lines⟩, hg, hread⟩ := Failing.exists_of_mem_forall₂ (mapM_eq_some.mp h) hs
    obtain ⟨entries, hentries, rfl⟩ := Option.map_eq_some_iff.mp hread
    obtain ⟨bodies, hbodies, hvalues⟩ := Option.bind_eq_some_iff.mp hentries
    obtain rfl := Option.some.inj hvalues
    obtain ⟨body, hbody, rfl⟩ := List.mem_map.mp hl
    obtain ⟨line, hline, hindent⟩ := Failing.exists_of_mem_forall₂ (mapM_eq_some.mp hbodies) hbody
    have hmem : line ∈ text.toList.splitOn '\n' := by
      refine mem_of_mem_group (.inr ⟨(kind, lines), ?_, hline⟩)
      rw [hgroup]
      exact hg
    rw [indented?] at hindent
    split at hindent
    · obtain rfl := Option.some.inj hindent
      show '\n' ∉ (String.ofList _).toList
      rw [String.toList_ofList]
      intro hm
      exact Text.notMem_of_mem_splitOn hmem (List.mem_of_mem_drop (List.mem_of_mem_drop hm))
    · exact nomatch hindent
  · exact nomatch h

/-! ## Entries -/

theorem keyChars_spec : ∀ c ∈ keyChars, c ≠ ' ' ∧ c.isWhitespace = false ∧ c.utf8Size = 1 := by
  have hall : keyChars.all
      (fun c => c ≠ ' ' && c.isWhitespace = false && c.utf8Size = 1) = true := by
    rfl
  simpa [List.all_eq_true, and_assoc] using hall

/-- A plain key has no space. -/
theorem space_notMem {key : String} (h : PlainKey key) : ' ' ∉ key.toList :=
  fun hm => (keyChars_spec _ (h.2 _ hm)).1 rfl

/-- A plain key has one byte for each character. -/
theorem utf8ByteSize_eq {key : String} (h : PlainKey key) : key.utf8ByteSize = key.length := by
  have hsize : ∀ cs : List Char, (∀ c ∈ cs, c ∈ keyChars) →
      (String.ofList cs).utf8ByteSize = cs.length := by
    intro cs
    induction cs with
    | nil => exact fun _ => rfl
    | cons c cs ih =>
        intro hcs
        obtain ⟨hc, hcs⟩ := List.forall_mem_cons.mp hcs
        rw [String.ofList_cons, String.utf8ByteSize_append, String.utf8ByteSize_singleton,
          (keyChars_spec c hc).2.2, ih hcs, List.length_cons, Nat.add_comm]
  have hkey := hsize key.toList h.2
  rwa [String.ofList_toList, String.length_toList] at hkey

/-- An entry behind its indentation: the key, spaces up to the column of values, and the value. -/
def entryOf (width : Nat) (line : String × String) : List Char :=
  line.1.toList ++ (List.replicate (width - line.1.length) ' ' ++ ' ' :: line.2.toList)

theorem toList_renderLine (width : Nat) (line : String × String) :
    (Section.renderLine width line).toList = [' ', ' ', ' ', ' '] ++ entryOf width line := by
  simp [Section.renderLine, Text.padRight, Text.spaces, entryOf]

theorem indented?_renderLine (width : Nat) (line : String × String) :
    indented? (Section.renderLine width line).toList = some (entryOf width line) := by
  rw [toList_renderLine, indented?,
    if_pos (List.isPrefixOf_iff_prefix.mpr (List.prefix_append _ _))]
  rfl

/-- The key of an entry is what stands before its first space. -/
theorem keyOf_entryOf (width : Nat) {line : String × String} (h : ' ' ∉ line.1.toList) :
    keyOf (entryOf width line) = line.1.toList := by
  have hspaces : List.replicate (width - line.1.length) ' ' ++ ' ' :: line.2.toList
      = ' ' :: (List.replicate (width - line.1.length) ' ' ++ line.2.toList) := by
    rw [← List.cons_append, ← List.replicate_succ, List.replicate_succ', List.append_assoc]
    rfl
  rw [keyOf, entryOf, hspaces, Text.takeWhile_ne_append h]

/-- The value of an entry begins behind the column of keys. -/
theorem drop_entryOf {width : Nat} {line : String × String} (h : line.1.length ≤ width) :
    (entryOf width line).drop (width + 1) = line.2.toList := by
  have hlen : (line.1.toList ++ List.replicate (width - line.1.length) ' ' ++ [' ']).length
      = width + 1 := by
    rw [List.length_append, List.length_append, String.length_toList, List.length_replicate,
      List.length_singleton]
    omega
  have hsplit : entryOf width line = (line.1.toList
      ++ List.replicate (width - line.1.length) ' ' ++ [' ']) ++ line.2.toList := by
    simp [entryOf]
  rw [hsplit, ← hlen]
  exact List.drop_left

/-- A longest key is at least as long as any other. -/
theorem le_foldl_max {n : Nat} {ns : List Nat} (h : n ∈ ns) (start : Nat) :
    n ≤ ns.foldl max start := by
  have hstart : ∀ (ns : List Nat) start, start ≤ ns.foldl max start := by
    intro ns
    induction ns with
    | nil => exact fun _ => Nat.le_refl _
    | cons m ns ih => exact fun start => Nat.le_trans (Nat.le_max_left start m) (ih _)
  induction ns generalizing start with
  | nil => exact nomatch h
  | cons m ns ih =>
      rcases List.mem_cons.mp h with rfl | h
      · exact Nat.le_trans (Nat.le_max_right start n) (hstart ns _)
      · exact ih h _

/-- A text has at least one byte for each character. -/
theorem length_le_utf8ByteSize (key : String) : key.length ≤ key.utf8ByteSize := by
  have hsize : ∀ cs : List Char, cs.length ≤ (String.ofList cs).utf8ByteSize := by
    intro cs
    induction cs with
    | nil => exact Nat.zero_le _
    | cons c cs ih =>
        rw [String.ofList_cons, String.utf8ByteSize_append, String.utf8ByteSize_singleton,
          List.length_cons, Nat.add_comm]
        exact Nat.add_le_add c.utf8Size_pos ih
  have hkey := hsize key.toList
  rwa [String.ofList_toList, String.length_toList] at hkey

/-- The column of keys has room for each key. -/
theorem length_le_keyWidth {s : Section} {l : String × String} (h : l ∈ s.lines) :
    l.1.length ≤ s.keyWidth := by
  have hmem : l.1.utf8ByteSize ∈ s.lines.map (·.1.utf8ByteSize) := List.mem_map.mpr ⟨l, h, rfl⟩
  exact Nat.le_trans (length_le_utf8ByteSize l.1) (le_foldl_max hmem 0)

/-- The lines of entries are read, each without its indentation. -/
theorem mapM_indented? (width : Nat) (ls : List (String × String)) :
    (ls.map fun l => (Section.renderLine width l).toList).mapM indented?
      = some (ls.map (entryOf width)) := by
  rw [mapM_eq_some, List.forall₂_map_left_iff, List.forall₂_map_right_iff, List.forall₂_same]
  exact fun l _ => indented?_renderLine _ l

/-- Who knows the column of keys can cut the entries of a section. -/
theorem map_entryOf {s : Section} (h : ∀ l ∈ s.lines, ' ' ∉ l.1.toList) :
    (s.lines.map (entryOf s.keyWidth)).map (fun e =>
      (String.ofList (keyOf e), String.ofList (e.drop (s.keyWidth + 1)))) = s.lines := by
  rw [List.map_map]
  refine (List.map_congr_left ?_).trans (List.map_id' _)
  intro l hl
  rw [Function.comp_apply, keyOf_entryOf _ (h l hl), drop_entryOf (length_le_keyWidth hl),
    String.ofList_toList, String.ofList_toList]

/-- **The entries of a section are read back.** -/
theorem readEntries_render {s : Section} (h : s.PlainKeys) :
    readEntries (s.lines.map fun l => (Section.renderLine s.keyWidth l).toList) = some s.lines := by
  -- the writer counts keys in bytes and the reader in characters; plain keys have one byte for each
  have hkeys : (s.lines.map (entryOf s.keyWidth)).map (fun e => (keyOf e).length)
      = s.lines.map (·.1.utf8ByteSize) := by
    rw [List.map_map]
    refine List.map_congr_left ?_
    intro l hl
    rw [Function.comp_apply, keyOf_entryOf _ (space_notMem (h l hl)), utf8ByteSize_eq (h l hl),
      String.length_toList]
  rw [readEntries, mapM_indented?]
  show some (List.map _ _) = some s.lines
  rw [hkeys]
  exact congrArg some (map_entryOf fun l hl => space_notMem (h l hl))

/-! ## Lines -/

/-- Lines of text are lines, and what follows them is read on its own. -/
theorem lines_unlines {ls : List String} (h : ∀ l ∈ ls, OneLine l) (cs : List Char) :
    ((Text.unlines ls).toList ++ cs).splitOn '\n' = ls.map String.toList ++ cs.splitOn '\n' := by
  induction ls with
  | nil => rfl
  | cons l ls ih =>
      obtain ⟨hl, hls⟩ := List.forall_mem_cons.mp h
      have hcs : (Text.unlines (l :: ls)).toList ++ cs
          = l.toList ++ '\n' :: ((Text.unlines ls).toList ++ cs) := by
        simp [Text.unlines]
      rw [hcs, List.splitOn_append_cons_self_of_not_mem hl, ih hls]
      rfl

/-- Joined lines with one more line break are lines of text. -/
theorem join_eq_unlines {ls : List String} (h : ls ≠ []) :
    Text.join "\n" ls ++ "\n" = Text.unlines ls := by
  induction ls with
  | nil => exact absurd rfl h
  | cons l ls ih =>
      cases ls with
      | nil => simp [Text.join, Text.unlines]
      | cons l' ls =>
          rw [Text.join, String.append_assoc, ih (List.cons_ne_nil _ _)]
          · rfl
          · simp

/-- The lines of a section. -/
def sectionLines (s : Section) : List String :=
  ("[" ++ s.kind.name ++ "]") :: s.lines.map (Section.renderLine s.keyWidth)

theorem render_eq_unlines {s : Section} (h : s.lines ≠ []) :
    s.render = Text.unlines (sectionLines s) := by
  have hentries : s.lines.map (Section.renderLine s.keyWidth) ≠ [] := by
    rwa [ne_eq, List.map_eq_nil_iff]
  have hheader : "[" ++ s.kind.name ++ "]\n" = "[" ++ s.kind.name ++ "]" ++ "\n" := by
    rw [show "]\n" = "]" ++ "\n" from rfl, ← String.append_assoc]
  rw [Section.render, String.append_assoc, join_eq_unlines hentries, hheader]
  rfl

/-- A plain key has no line break. -/
theorem oneLine_of_plainKey {key : String} (h : PlainKey key) : OneLine key :=
  fun hm => absurd (h.2 _ hm) (by decide)

/-- The line of an entry is one line, if its key and its value are. -/
theorem oneLine_renderLine (width : Nat) {line : String × String} (hkey : OneLine line.1)
    (hvalue : OneLine line.2) : OneLine (Section.renderLine width line) := by
  have hkey : '\n' ∉ line.1.toList := hkey
  have hvalue : '\n' ∉ line.2.toList := hvalue
  rw [OneLine, toList_renderLine, entryOf]
  simp [hkey, hvalue]

/-- All lines of a section are one line each, if its values are. -/
theorem oneLine_sectionLines {s : Section} (hk : OneLine s.kind.name) (hkeys : s.PlainKeys)
    (hvalues : s.OneLined) : ∀ l ∈ sectionLines s, OneLine l := by
  intro l hl
  rcases List.mem_cons.mp hl with rfl | hl
  · simpa [OneLine] using hk
  · obtain ⟨e, he, rfl⟩ := List.mem_map.mp hl
    exact oneLine_renderLine _ (oneLine_of_plainKey (hkeys e he)) (hvalues e he)

/-! ## Grouping -/

theorem toList_header (kind : String) :
    ("[" ++ kind ++ "]").toList = '[' :: (kind.toList ++ [']']) := by
  simp

/-- A header is read. -/
theorem header?_header (kind : String) : header? ("[" ++ kind ++ "]").toList = some kind := by
  rw [toList_header, header?, List.getLast?_concat, if_pos rfl, List.dropLast_concat,
    String.ofList_toList]

/-- A header opens a section with all entries up to the next one. -/
theorem group_header (kind : String) (rest : List (List Char)) :
    group (("[" ++ kind ++ "]").toList :: rest)
      = ([], (kind, (group rest).1) :: (group rest).2) := by
  have hblank : isBlank ("[" ++ kind ++ "]").toList = false := by
    rw [toList_header]
    rfl
  rw [group, hblank, header?_header]
  rfl

/-- Lines that are neither blank nor headers stay together. -/
theorem group_append {ls : List (List Char)} (h : ∀ l ∈ ls, isBlank l = false ∧ header? l = none)
    (rest : List (List Char)) : group (ls ++ rest) = (ls ++ (group rest).1, (group rest).2) := by
  induction ls with
  | nil => rfl
  | cons l ls ih =>
      obtain ⟨⟨hblank, hheader⟩, hls⟩ := List.forall_mem_cons.mp h
      rw [List.cons_append, group, hblank, hheader, ih hls]
      rfl

/-- An entry is neither blank nor a header. -/
theorem renderLine_spec {width : Nat} {line : String × String} (h : PlainKey line.1) :
    isBlank (Section.renderLine width line).toList = false ∧
      header? (Section.renderLine width line).toList = none := by
  rw [toList_renderLine]
  refine ⟨?_, rfl⟩
  obtain ⟨hne, hchars⟩ := h
  obtain ⟨c, cs, hkey⟩ := List.exists_cons_of_ne_nil (mt String.toList_eq_nil_iff.mp hne)
  have hc : c.isWhitespace = false := (keyChars_spec c (hchars c (hkey ▸ List.mem_cons_self))).2.1
  rw [isBlank, entryOf, hkey]
  simp [hc]

/-- **A section is one group.** -/
theorem group_section {s : Section} (h : s.PlainKeys) {rest : List (List Char)}
    {groups : List (String × List (List Char))} (hrest : group rest = ([], groups)) :
    group ((sectionLines s).map String.toList ++ rest) = ([], (s.kind.name,
      s.lines.map fun l => (Section.renderLine s.keyWidth l).toList) :: groups) := by
  have hentries : ∀ l ∈ s.lines.map fun l => (Section.renderLine s.keyWidth l).toList,
      isBlank l = false ∧ header? l = none := by
    intro l hl
    obtain ⟨e, he, rfl⟩ := List.mem_map.mp hl
    exact renderLine_spec (h e he)
  rw [sectionLines, List.map_cons, List.map_map, List.cons_append, group_header]
  have hgroup := group_append hentries rest
  rw [hrest, List.append_nil] at hgroup
  rw [show (String.toList ∘ Section.renderLine s.keyWidth)
    = fun l => (Section.renderLine s.keyWidth l).toList from rfl, hgroup]

/-! ## Files -/

/-- What can be relied on for a section in a file. -/
structure Writable (s : Section) : Prop where
  kind : OneLine s.kind.name
  lines : s.lines ≠ []
  keys : s.PlainKeys

/-- A section as it is read: its kind and its lines. -/
def contentOf (s : Section) : String × List (String × String) :=
  (s.kind.name, s.lines)

/-- The groups of a file are its sections. The induction is on the sections; each is followed by a
blank line. -/
theorem group_join_render {ss : List Section} (h : ∀ s ∈ ss, Writable s)
    (hvalues : ∀ s ∈ ss, s.OneLined) :
    group ((Text.join "\n" (ss.map Section.render)).toList.splitOn '\n')
      = ([], ss.map fun s =>
          (s.kind.name, s.lines.map fun l => (Section.renderLine s.keyWidth l).toList)) := by
  induction ss with
  | nil => rfl
  | cons s ss ih =>
      obtain ⟨hs, hss⟩ := List.forall_mem_cons.mp h
      obtain ⟨hv, hvs⟩ := List.forall_mem_cons.mp hvalues
      have hlines := oneLine_sectionLines hs.kind hs.keys hv
      cases ss with
      | nil =>
          have hend := lines_unlines hlines []
          rw [List.append_nil] at hend
          show group ((s.render).toList.splitOn '\n') = _
          rw [render_eq_unlines hs.lines, hend]
          exact group_section hs.keys rfl
      | cons s' ss =>
          have hcs : (Text.join "\n" ((s :: s' :: ss).map Section.render)).toList
              = (Text.unlines (sectionLines s)).toList
                ++ '\n' :: (Text.join "\n" ((s' :: ss).map Section.render)).toList := by
            rw [List.map_cons, List.map_cons, Text.join, ← List.map_cons,
              render_eq_unlines hs.lines]
            · simp
            · simp
          -- the line break between two sections is a blank line, which the reader skips
          have hblank : ∀ cs : List Char, ('\n' :: cs).splitOn '\n' = [] :: cs.splitOn '\n' :=
            fun cs => List.splitOn_append_cons_self_of_not_mem List.not_mem_nil cs
          rw [hcs, lines_unlines hlines, hblank]
          exact group_section hs.keys (ih hss hvs)

/-- **Sections whose values are one line are read back.** -/
theorem read_join_render {ss : List Section} (h : ∀ s ∈ ss, Writable s)
    (hvalues : ∀ s ∈ ss, s.OneLined) :
    read (Text.join "\n" (ss.map Section.render)) = some (ss.map contentOf) := by
  rw [read, group_join_render h hvalues]
  show List.mapM _ _ = _
  rw [mapM_eq_some, List.forall₂_map_left_iff, List.forall₂_map_right_iff, List.forall₂_same]
  intro s hs
  rw [readEntries_render (h s hs).keys]
  rfl

/-- **Sections are read back exactly if their values are one line.** -/
theorem read_iff {ss : List Section} (h : ∀ s ∈ ss, Writable s) :
    read (Text.join "\n" (ss.map Section.render)) = some (ss.map contentOf) ↔
      ∀ s ∈ ss, s.OneLined := by
  refine ⟨?_, read_join_render h⟩
  intro hread s hs l hl
  exact oneLine_of_read hread _ (List.mem_map.mpr ⟨s, hs, rfl⟩) l hl

end SectionFile

end Telemetry
