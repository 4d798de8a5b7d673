import Telemetry.Proofs.ParsedField
import Telemetry.Proofs.Quotation

/-!
# The field that is spared

The filters around a parser put all fields aside but the one to parse. Their script finds it by a
literal, into which the name of the field is copied as it is. Here the literal is read as one, with
whatever a backslash may make of the character behind it.

* **`Lua.Compares`** — the literal with which a script compares the names of fields, and the rest of
  the script behind it.
* **`Lua.compares_nest`** — it denotes the field to parse exactly if each character of that stands
  for itself.
* **`Filter.parseChain_spares_iff`** — so for every field that filters can be asked to parse;
  **`Filter.parseChain_splitField`** is one that ends its own literal.
-/

namespace Telemetry

namespace Lua

/-- Literals of scripts: a line break ends them as well, and some meaning is given to the characters
behind a backslash. -/
def quotation (escaped : Char → Option Char) : Quotation where
  plain := Plain
  escaped := escaped
  plain_quote := by decide
  plain_backslash := by decide

/-- The first literal of a script stands where the names of fields are compared with it. It denotes
`denoted`, and `after` is the rest of the script. -/
def Compares (escaped : Char → Option Char) (script : String) (denoted after : List Char) : Prop :=
  ∃ before written, script.toList = before ++ (written ++ after) ∧ '"' ∉ before ∧
    "if k ~= ".toList <:+ before ∧ (quotation escaped).Literal written denoted

variable {escaped : Char → Option Char} {field : String}

/-! ## The literal of the script -/

/-- The script up to the literal. -/
def beforeLiteral : List Char := beforeField.dropLast

theorem beforeField_eq : beforeField = beforeLiteral ++ ['"'] := by
  refine (List.dropLast_append_getLast? '"' ?_).symm
  simp [beforeField, List.getLast?_append]

theorem quote_notMem_beforeLiteral : '"' ∉ beforeLiteral := by
  simp [beforeLiteral, beforeField, toList_unlines]

/-- In front of the literal the script compares with the name of a field. -/
theorem suffix_beforeLiteral : "if k ~= ".toList <:+ beforeLiteral := by
  rw [beforeLiteral, beforeField, String.toList_append, List.dropLast_append_of_ne_nil (by simp)]
  exact List.IsSuffix.trans ⟨"    ".toList, by simp⟩ (List.suffix_append _ _)

theorem toList_nest_literal (field : String) :
    (Script.nest field).toList = beforeLiteral ++ '"' :: (field.toList ++ '"' :: behindField) := by
  rw [toList_nest, beforeField_eq, List.append_assoc]
  rfl

/-- What the script compares with begins at the first quotation mark, and ends with the next one that
no backslash takes. -/
theorem compares_nest_iff {denoted after : List Char} :
    Compares escaped (Script.nest field) denoted after ↔
      ∃ inside, field.toList ++ '"' :: behindField = inside ++ '"' :: after ∧
        (quotation escaped).Inside inside denoted := by
  constructor
  · rintro ⟨before, _, hscript, hbefore, -, inside, rfl, hinside⟩
    have hsplit : beforeLiteral ++ '"' :: (field.toList ++ '"' :: behindField)
        = before ++ '"' :: (inside ++ '"' :: after) := by
      rw [← toList_nest_literal, hscript]
      simp
    obtain ⟨-, hrest⟩ :=
      Text.append_cons_inj_of_first quote_notMem_beforeLiteral hbefore hsplit
    exact ⟨inside, hrest, hinside⟩
  · rintro ⟨inside, hrest, hinside⟩
    refine ⟨beforeLiteral, _, ?_, quote_notMem_beforeLiteral, suffix_beforeLiteral, inside, rfl,
      hinside⟩
    rw [toList_nest_literal, hrest]
    simp

/-- **The script compares with the field to parse** exactly if each character of it stands for
itself. Otherwise the literal ends within the field, or is shorter than the field when it ends
behind it, or does not end on its line. -/
theorem compares_nest :
    (∃ after, Compares escaped (Script.nest field) field.toList after) ↔
      ∀ c ∈ field.toList, Plain c := by
  constructor
  · rintro ⟨after, h⟩
    obtain ⟨inside, hsplit, hinside⟩ := compares_nest_iff.mp h
    by_cases hlength : inside.length ≤ field.toList.length
    · obtain ⟨heq, hplain⟩ := hinside.plain_of_length_le hlength
      rwa [heq] at hplain
    · -- the literal would go on behind the mark that is meant to end it, and over a line break
      rcases List.append_eq_append_iff.mp hsplit with ⟨zs, rfl, hzs⟩ | ⟨zs, hfield, -⟩
      · cases zs with
        | nil => simp at hlength
        | cons z zs =>
            obtain ⟨rfl, hbehind⟩ := List.cons.inj hzs
            obtain ⟨more, rfl⟩ := then_of_quote hbehind
            have hbreak : (quotation escaped).Inside
                ((field.toList ++ "\" the".toList) ++ 'n' :: '\n' :: more) field.toList := by
              simpa using hinside
            have hplain : Plain '\n' := hbreak.plain_of_append (by decide) (by decide)
            exact absurd hplain (by decide)
      · rw [hfield, List.length_append] at hlength
        omega
  · intro h
    exact ⟨behindField, compares_nest_iff.mpr ⟨field.toList, rfl, .of_plain h⟩⟩

end Lua

namespace Filter

/-- **The filters spare the field that they parse** exactly if each character of its name stands for
itself between quotation marks: there is one script, and the literal in it denotes the name. -/
theorem parseChain_spares_iff (routing : String) (field : Option String) (parsers : List String)
    (preserveKey : Bool) :
    parsedKeys (parseChain routing field parsers preserveKey) = [some (parseKey field)] ∧
      ∃ script, nestScripts (parseChain routing field parsers preserveKey) = [some script] ∧
        ∀ escaped, (∃ after, Lua.Compares escaped script (parseKey field).toList after) ↔
          ∀ c ∈ (parseKey field).toList, Lua.Plain c := by
  obtain ⟨hkeys, hscripts⟩ := parseChain_field routing field parsers preserveKey
  exact ⟨hkeys, _, hscripts, fun _ => Lua.compares_nest⟩

/-- A field with a name of letters is spared, whatever a backslash may make of them. -/
theorem parseChain_spares_iff_log :
    ∃ script, nestScripts (parseChain "p1.r1" (some "log") ["p1.r1.0"] true) = [some script] ∧
      ∀ escaped, ∃ after, Lua.Compares escaped script "log".toList after := by
  obtain ⟨-, script, hscript, hspares⟩ :=
    parseChain_spares_iff "p1.r1" (some "log") ["p1.r1.0"] true
  refine ⟨script, hscript, fun escaped => (hspares escaped).mpr ?_⟩
  simp [parseKey, Lua.Plain]

/-- **A field that ends its own literal:** the script compares with the part in front of the
quotation mark, and the rest of the name is read as program text. -/
theorem parseChain_splitField :
    ∃ script, parsedKeys (parseChain "p1.r1" (some "a\"b") ["p1.r1.0"] false) = [some "a\"b"] ∧
      nestScripts (parseChain "p1.r1" (some "a\"b") ["p1.r1.0"] false) = [some script] ∧
      ∀ escaped, (∃ after, Lua.Compares escaped script ['a'] ('b' :: after)) ∧
        ¬ ∃ after, Lua.Compares escaped script "a\"b".toList after := by
  obtain ⟨hkeys, hscripts⟩ := parseChain_field "p1.r1" (some "a\"b") ["p1.r1.0"] false
  refine ⟨_, hkeys, hscripts, fun escaped => ⟨⟨'"' :: Lua.behindField, ?_⟩, ?_⟩⟩
  · refine Lua.compares_nest_iff.mpr ⟨['a'], by simp [parseKey], .of_plain ?_⟩
    simp [Lua.quotation, Lua.Plain]
  · intro h
    have hplain := Lua.compares_nest.mp h
    exact absurd (hplain '"' (by decide)) (by decide)

end Filter

end Telemetry
