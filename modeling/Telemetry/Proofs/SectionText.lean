import Telemetry.Proofs.SectionFile

/-!
# The text of one section

The values of a section begin in one column, and the widest key says in which: the column of keys
has as many characters as that key has bytes, and no key has more characters than bytes. So there is
a space behind every key, and whoever knows the column can cut the values off, whether they begin
with spaces themselves or are empty.

* **`Section.render_cut`** — the text is cut at the beginning of each value.
* **`Section.column_beforeValue_iff`** — a value stands in the column of values exactly if its key has
  no line break.
* **`Section.readText_render`** — who knows how sections are written reads the name of the kind and
  all lines back.
* **`Section.render_recovers`** — what comes of this, with keys of any characters.
-/

namespace Telemetry

open SectionFile

/-- A kind is the one of its name, unless it is not known and has the name of a known one. -/
theorem SectionKind.ofName_name {kind : SectionKind}
    (h : ∀ n, kind = .other n → ofName n = .other n) : ofName kind.name = kind := by
  cases kind with
  | other n => exact h n rfl
  | _ => rfl

namespace Section

/-! ## Where a value begins -/

/-- The text of a section up to an entry, from the entries before it. -/
def beforeEntry (s : Section) (before : List (String × String)) : String :=
  Text.unlines (("[" ++ s.kind.name ++ "]") :: before.map (renderLine s.keyWidth))

/-- The text of a section up to the value of an entry, from the entries before it and its key. -/
def beforeValue (s : Section) (before : List (String × String)) (key : String) : String :=
  s.beforeEntry before ++ "    " ++ key ++ Text.spaces (s.keyWidth - key.length + 1)

theorem unlines_append (ls ms : List String) :
    Text.unlines (ls ++ ms) = Text.unlines ls ++ Text.unlines ms := by
  induction ls with
  | nil => simp [Text.unlines]
  | cons l ls ih =>
      show l ++ "\n" ++ Text.unlines (ls ++ ms) = l ++ "\n" ++ Text.unlines ls ++ Text.unlines ms
      rw [ih]
      simp only [String.append_assoc]

/-- A line is cut at the beginning of its value. -/
theorem renderLine_eq (width : Nat) (key value : String) :
    renderLine width (key, value)
      = "    " ++ key ++ Text.spaces (width - key.length + 1) ++ value := by
  have hspaces : ∀ n, Text.spaces (n + 1) = Text.spaces n ++ " " := by
    intro n
    refine String.toList_injective ?_
    simp [Text.spaces, List.replicate_succ']
  rw [renderLine, Text.padRight, hspaces]
  simp only [String.append_assoc]

/-- **The text of a section is cut at the beginning of each value.** -/
theorem render_cut {s : Section} {before after : List (String × String)} {key value : String}
    (h : s.lines = before ++ (key, value) :: after) :
    s.render = s.beforeValue before key ++ value ++ "\n"
      ++ Text.unlines (after.map (renderLine s.keyWidth)) := by
  have hne : s.lines ≠ [] := by
    rw [h]
    exact List.append_ne_nil_of_right_ne_nil _ (List.cons_ne_nil _ _)
  have hlines : sectionLines s = (("[" ++ s.kind.name ++ "]") :: before.map (renderLine s.keyWidth))
      ++ renderLine s.keyWidth (key, value) :: after.map (renderLine s.keyWidth) := by
    rw [sectionLines, h, List.map_append, List.map_cons, List.cons_append]
  rw [render_eq_unlines hne, hlines, unlines_append, beforeValue, beforeEntry]
  show _ ++ (renderLine s.keyWidth (key, value) ++ "\n" ++ Text.unlines _) = _
  rw [renderLine_eq]
  simp only [String.append_assoc]

/-! ## The column of values -/

/-- How many characters of its last line a text has. -/
def column (text : String) : Nat :=
  (text.toList.reverse.takeWhile (· ≠ '\n')).length

/-- What stands behind a line break is the last line exactly if it has no other. -/
theorem column_eq_length_iff {text : String} {xs ys : List Char}
    (h : text.toList = xs ++ '\n' :: ys) : column text = ys.length ↔ '\n' ∉ ys := by
  have hreverse : text.toList.reverse = ys.reverse ++ '\n' :: xs.reverse := by
    rw [h]
    simp
  rw [column, hreverse]
  constructor
  · intro hlen hmem
    -- the last line begins behind the last of the line breaks
    obtain ⟨us, vs, hys, hus⟩ := List.eq_append_cons_of_mem (List.mem_reverse.mpr hmem)
    have hlonger : us.length < ys.length := by
      rw [← ys.length_reverse, hys, List.length_append, List.length_cons]
      omega
    rw [hys, List.append_assoc, List.cons_append, Text.takeWhile_ne_append hus] at hlen
    omega
  · intro hnot
    rw [Text.takeWhile_ne_append (fun hm => hnot (List.mem_reverse.mp hm)), List.length_reverse]

variable {s : Section}

/-- With any key, a value begins at the same distance from the beginning of its entry. -/
theorem length_beforeValue {key value : String} (h : (key, value) ∈ s.lines)
    (before : List (String × String)) :
    (s.beforeValue before key).length = (s.beforeEntry before).length + (s.keyWidth + 5) := by
  have hwidth : key.length ≤ s.keyWidth := length_le_keyWidth h
  have hspaces : ∀ n, (Text.spaces n).length = n := by simp [Text.spaces]
  rw [beforeValue, String.length_append, String.length_append, String.length_append, hspaces,
    show "    ".length = 4 from rfl]
  omega

/-- **A value stands in the column of values exactly if its key has no line break.** -/
theorem column_beforeValue_iff {key value : String} (h : (key, value) ∈ s.lines)
    (before : List (String × String)) :
    column (s.beforeValue before key) = s.keyWidth + 5 ↔ OneLine key := by
  have hwidth : key.length ≤ s.keyWidth := length_le_keyWidth h
  have hcut : (s.beforeValue before key).toList
      = (Text.join "\n" (("[" ++ s.kind.name ++ "]") :: before.map (renderLine s.keyWidth))).toList
        ++ '\n' :: ("    ".toList ++ key.toList
          ++ List.replicate (s.keyWidth - key.length + 1) ' ') := by
    rw [beforeValue, beforeEntry, ← join_eq_unlines (List.cons_ne_nil _ _)]
    simp [Text.spaces]
  have hlen : ("    ".toList ++ key.toList
      ++ List.replicate (s.keyWidth - key.length + 1) ' ').length = s.keyWidth + 5 := by
    rw [List.length_append, List.length_append, List.length_replicate, String.length_toList,
      String.length_toList, show "    ".length = 4 from rfl]
    omega
  rw [← hlen, column_eq_length_iff hcut]
  simp [OneLine]

/-! ## Reading one section -/

/-- The name of the kind and the lines of a section, from its text. -/
def readText (text : String) : Option (String × List (String × String)) :=
  match text.toList.splitOn '\n' with
  | [] => none
  | header :: rest => do
    let name ← header? header
    let entries ← (rest.filter (· ≠ [])).mapM indented?
    let width := (entries.map fun e => (String.ofList (keyOf e)).utf8ByteSize).foldl max 0
    return (name, entries.map fun e => (String.ofList (keyOf e), String.ofList (e.drop (width + 1))))

/-- A section that can be read: the keys are without spaces, and all is of one line. -/
structure Legible (s : Section) : Prop where
  kind : OneLine s.kind.name
  keys : ∀ l ∈ s.lines, ' ' ∉ l.1.toList ∧ OneLine l.1
  values : s.OneLined

/-- The lines of the text of a section: the header, those of its entries, and empty ones. -/
theorem splitOn_render (h : s.Legible) :
    ∃ empty, (∀ l ∈ empty, l = []) ∧ s.render.toList.splitOn '\n'
      = ("[" ++ s.kind.name ++ "]").toList
        :: ((s.lines.map fun l => (renderLine s.keyWidth l).toList) ++ empty) := by
  have hheader : OneLine ("[" ++ s.kind.name ++ "]") := by
    simpa [OneLine] using h.kind
  by_cases hne : s.lines = []
  · -- without entries, an empty line stands in their place
    have hrender : s.render = Text.unlines ["[" ++ s.kind.name ++ "]", ""] := by
      refine String.toList_injective ?_
      simp [render, hne, Text.join, Text.unlines]
    have hlines : ∀ l ∈ ["[" ++ s.kind.name ++ "]", ""], OneLine l :=
      List.forall_mem_cons.mpr ⟨hheader, by decide⟩
    have hsplit := lines_unlines hlines []
    rw [List.append_nil] at hsplit
    refine ⟨[[], []], by simp, ?_⟩
    rw [hrender, hsplit, hne]
    rfl
  · have hlines : ∀ l ∈ sectionLines s, OneLine l := by
      refine List.forall_mem_cons.mpr ⟨hheader, ?_⟩
      intro l hl
      obtain ⟨e, he, rfl⟩ := List.mem_map.mp hl
      exact oneLine_renderLine _ (h.keys e he).2 (h.values e he)
    have hsplit := lines_unlines hlines []
    rw [List.append_nil] at hsplit
    refine ⟨[[]], by simp, ?_⟩
    rw [render_eq_unlines hne, hsplit, sectionLines, List.map_cons, List.map_map]
    rfl

/-- The line of an entry is not empty. -/
theorem renderLine_ne_nil (width : Nat) (line : String × String) :
    (renderLine width line).toList ≠ [] := by
  rw [toList_renderLine]
  exact List.cons_ne_nil _ _

/-- **The name of the kind and the lines of a section are read back.** -/
theorem readText_render (h : s.Legible) : readText s.render = some (s.kind.name, s.lines) := by
  obtain ⟨empty, hempty, hsplit⟩ := splitOn_render h
  have hrest : ((s.lines.map fun l => (renderLine s.keyWidth l).toList) ++ empty).filter (· ≠ [])
      = s.lines.map fun l => (renderLine s.keyWidth l).toList := by
    rw [List.filter_append, List.filter_eq_self.mpr, List.filter_eq_nil_iff.mpr, List.append_nil]
    · intro l hl
      simp [hempty l hl]
    · intro l hl
      obtain ⟨e, -, rfl⟩ := List.mem_map.mp hl
      simpa using renderLine_ne_nil s.keyWidth e
  have hwidth : ((s.lines.map (entryOf s.keyWidth)).map fun e =>
      (String.ofList (keyOf e)).utf8ByteSize).foldl max 0 = s.keyWidth := by
    rw [keyWidth, List.map_map]
    refine congrArg (·.foldl max 0) (List.map_congr_left fun l hl => ?_)
    rw [Function.comp_apply, keyOf_entryOf _ (h.keys l hl).1, String.ofList_toList]
  rw [readText, hsplit]
  simp only [header?_header, hrest, mapM_indented?, Option.bind_some, Option.bind_eq_bind, hwidth]
  show some (s.kind.name, List.map _ _) = some (s.kind.name, s.lines)
  rw [map_entryOf fun l hl => (h.keys l hl).1]

/-! ## The result -/

/-- **The text of a section is aligned and can be read back.** For any section:

* The text is cut at the beginning of each value: there it has the lines before, the indentation,
  the key and at least one space. Up to the value, each entry has as many characters as the widest
  key has bytes, and five more; and this is the column of the value exactly if its key has no line
  break.
* If no key has a space or a line break, and no value and not the name of the kind a line break, the
  name of the kind and all lines, the fields by their keys and then the entries, are read back from
  the text; and with the name the kind, unless it is unknown and has the name of a known one. So
  two such sections of one text have the same lines. -/
theorem render_recovers (s : Section) :
    (∀ before key value after, s.lines = before ++ (key, value) :: after →
      s.render = s.beforeValue before key ++ value ++ "\n"
        ++ Text.unlines (after.map (renderLine s.keyWidth)) ∧
      (s.beforeValue before key).length = (s.beforeEntry before).length + (s.keyWidth + 5) ∧
      (column (s.beforeValue before key) = s.keyWidth + 5 ↔ OneLine key)) ∧
    (s.Legible → readText s.render = some (s.kind.name, s.fields.entries ++ s.entries) ∧
      ((∀ n, s.kind = .other n → SectionKind.ofName n = .other n) →
        SectionKind.ofName s.kind.name = s.kind) ∧
      ∀ s' : Section, s'.Legible → s'.render = s.render →
        s'.kind.name = s.kind.name ∧ s'.lines = s.lines) := by
  refine ⟨?aligned, ?read⟩
  case aligned =>
    intro before key value after hlines
    have hmem : (key, value) ∈ s.lines := by
      rw [hlines]
      exact List.mem_append_right _ List.mem_cons_self
    exact ⟨render_cut hlines, length_beforeValue hmem before, column_beforeValue_iff hmem before⟩
  case read =>
    intro h
    refine ⟨readText_render h, SectionKind.ofName_name, ?_⟩
    intro s' h' htext
    have hread := readText_render h'
    rw [htext, readText_render h] at hread
    obtain ⟨hname, hlines⟩ := Prod.mk.inj (Option.some.inj hread)
    exact ⟨hname.symm, hlines.symm⟩

/-- A key of two characters in six bytes, a value that begins with spaces, and an entry without key
and value. -/
def wideKey : Section :=
  (ofFields .filter [("이름", "  x"), ("Name", "")]).pushAll [("", ""), ("Name", "y")]

theorem render_recovers_wideKey : wideKey.Legible ∧
    wideKey.render = "[FILTER]\n    Name   \n    이름       x\n           \n    Name   y\n" ∧
    readText wideKey.render
      = some ("FILTER", [("Name", ""), ("이름", "  x"), ("", ""), ("Name", "y")]) ∧
    column (wideKey.beforeValue [("Name", "")] "이름") = 11 := by
  have hvalues : ∀ l ∈ wideKey.lines, OneLine l.2 := by decide
  have hlegible : wideKey.Legible := ⟨by decide, by decide, hvalues⟩
  obtain ⟨haligned, hread⟩ := render_recovers wideKey
  obtain ⟨-, -, hcolumn⟩ := haligned [("Name", "")] "이름" "  x" [("", ""), ("Name", "y")]
    rfl
  have hwidth : wideKey.keyWidth = 6 := rfl
  rw [hwidth] at hcolumn
  have hlines : wideKey.fields.entries ++ wideKey.entries
      = [("Name", ""), ("이름", "  x"), ("", ""), ("Name", "y")] := rfl
  refine ⟨hlegible, rfl, ?_, hcolumn.mpr (by decide)⟩
  rw [(hread hlegible).1, hlines]
  rfl

/-- A key with a line break. -/
def brokenKey : Section :=
  ofFields .input [("a\nb", "1"), ("c", "2")]

/-- **With a line break in a key, the values do not stand in one column;** and a kind that is not
known can have the name of a known one. -/
theorem render_brokenKey :
    (¬ ∃ col, ∀ before key value after, brokenKey.lines = before ++ (key, value) :: after →
      column (brokenKey.beforeValue before key) = col) ∧
    (new (.other "INPUT")).render = (new .input).render := by
  refine ⟨?_, rfl⟩
  rintro ⟨col, h⟩
  have hfirst := h [] "a\nb" "1" [("c", "2")] rfl
  have hsecond := h [("a\nb", "1")] "c" "2" [] rfl
  have hne : column (brokenKey.beforeValue [] "a\nb")
      ≠ column (brokenKey.beforeValue [("a\nb", "1")] "c") := by decide
  exact hne (hfirst.trans hsecond.symm)

end Section

end Telemetry
