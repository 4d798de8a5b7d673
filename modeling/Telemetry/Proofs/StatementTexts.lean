import Telemetry.Compile.Collector
import Telemetry.Proofs.ParsedField
import Telemetry.Proofs.Quotation

/-!
# Texts of the user in statements

The collector's statements are put together from program text and from names and formats that a
configuration gives. These are quoted, and what is quoted cannot become program text.

* **`Statement.quotation`** — the literals of the statement language.
* **`literal_quote`** — a quoted text is a literal that denotes the text, whatever characters that
  has; **`quote_eq_replace`** says that quoting doubles the backslashes first and then escapes the
  quotation marks.
* **`Template`** — a statement with places for texts of the user. **`pieces_fill`** — filled with any
  texts, it has one literal at each place, and otherwise its own program text.
* **`quote_isolates`** — all statements on log records are templates that are filled so.
-/

namespace Telemetry

open Quotation (Piece)

namespace Text

/-- A text of one character is replaced character by character. -/
theorem replaceFrom_singleton (a : Char) (new cs : List Char) :
    replaceFrom [a] new 0 cs = cs.flatMap fun c => if c = a then new else [c] := by
  induction cs with
  | nil => rfl
  | cons c cs ih =>
      rw [List.flatMap_cons, ← ih, replaceFrom]
      by_cases hc : c = a
      · subst hc
        simp
      · simp [hc, Ne.symm hc]

end Text

namespace Statement

/-- Literals of statements: every other character stands for itself, and behind a backslash every
character does. -/
def quotation : Quotation where
  plain c := c ≠ '"' ∧ c ≠ '\\'
  escaped := some
  plain_quote h := h.1 rfl
  plain_backslash h := h.2 rfl

/-! ## Quoting -/

theorem inside_quotedChar (c : Char) : quotation.Inside (quotedChar c) [c] := by
  rw [quotedChar]
  split
  · exact .pair rfl .nil
  · rename_i hc
    simp only [Bool.or_eq_true, decide_eq_true_eq, not_or] at hc
    exact .char ⟨hc.2, hc.1⟩ .nil

/-- What is written for the characters of a text denotes them. -/
theorem inside_quoted (cs : List Char) : quotation.Inside (cs.flatMap quotedChar) cs := by
  induction cs with
  | nil => exact .nil
  | cons c cs ih => exact (inside_quotedChar c).append ih

/-- **A quoted text is a literal** that denotes the text. -/
theorem literal_quote (s : String) : quotation.Literal (quote s).toList s.toList :=
  ⟨s.toList.flatMap quotedChar, by rw [quote, String.toList_ofList], inside_quoted s.toList⟩

/-- **Quoting as two replacements:** the second one does not touch the backslashes of the first. -/
theorem quote_eq_replace (s : String) :
    quote s = "\"" ++ Text.replace "\"" "\\\"" (Text.replace "\\" "\\\\" s) ++ "\"" := by
  have hboth : s.toList.flatMap quotedChar
      = Text.replaceFrom ['"'] ['\\', '"'] 0 (Text.replaceFrom ['\\'] ['\\', '\\'] 0 s.toList) := by
    rw [Text.replaceFrom_singleton, Text.replaceFrom_singleton, List.flatMap_assoc]
    refine List.flatMap_congr fun c _ => ?_
    by_cases hb : c = '\\'
    · subst hb
      rfl
    · by_cases hq : c = '"'
      · subst hq
        rfl
      · simp [quotedChar, hb, hq]
  apply String.toList_injective
  simp only [quote, Text.replace, String.toList_append, String.toList_ofList, hboth]
  rfl

/-! ## Templates -/

/-- A part of a statement with places for texts of the user, which have names in `ι`. -/
inductive Part (ι : Type) where
  /-- Program text. -/
  | code (s : String)
  /-- A literal that is always the same. -/
  | text (s : String)
  /-- A literal for a text of the user. -/
  | slot (i : ι)

namespace Part

variable {ι : Type} (σ : ι → String)

/-- What is written for a part. -/
def write : Part ι → String
  | code s => s
  | text s => quote s
  | slot i => quote (σ i)

/-- What a part is meant to be read as. -/
def pieces : Part ι → List Piece
  | code s => s.toList.map .code
  | text s => [.literal s.toList]
  | slot i => [.literal (σ i).toList]

/-- Program text has no quotation mark. -/
def isBare : Part ι → Bool
  | code s => !s.toList.contains '"'
  | _ => true

/-- A part is read as it is meant. -/
theorem pieces_write {p : Part ι} (h : p.isBare = true) :
    quotation.Pieces (p.write σ).toList (p.pieces σ) := by
  cases p with
  | code s =>
      have hbare : '"' ∉ s.toList := by simpa [isBare] using h
      exact .of_bare hbare
  | text s => exact .of_literal (literal_quote s)
  | slot i => exact .of_literal (literal_quote (σ i))

end Part

/-- A statement with places for texts of the user. -/
abbrev Template (ι : Type) := List (Part ι)

namespace Template

variable {ι : Type} (σ : ι → String)

/-- The statement with texts of the user in all places. -/
def fill : Template ι → String
  | [] => ""
  | p :: ps => p.write σ ++ fill ps

theorem fill_append (t t' : Template ι) : fill σ (t ++ t') = fill σ t ++ fill σ t' := by
  induction t with
  | nil => simp [fill]
  | cons p t ih => rw [List.cons_append, fill, fill, ih, String.append_assoc]

/-- **A filled template has one literal for each place:** it is read as it is meant, and in no other
way. -/
theorem pieces_fill {t : Template ι} (h : t.all Part.isBare = true) (ps : List Piece) :
    quotation.Pieces (fill σ t).toList ps ↔ ps = t.flatMap (Part.pieces σ) := by
  have hread : quotation.Pieces (fill σ t).toList (t.flatMap (Part.pieces σ)) := by
    induction t with
    | nil => exact .nil
    | cons p t ih =>
        rw [List.all_cons, Bool.and_eq_true] at h
        rw [fill, String.toList_append, List.flatMap_cons]
        exact (p.pieces_write σ h.1).append (ih h.2)
  refine ⟨fun h => h.unique hread, ?_⟩
  rintro rfl
  exact hread

end Template

/-- Statements are templates with texts of the user in all places, and are read as such: a place is
one literal, which denotes its text, and all else is as the template has it. -/
def Fill {ι : Type} (statements : List String) (templates : List (Template ι)) (σ : ι → String) :
    Prop :=
  List.Forall₂ (fun s t => s = Template.fill σ t ∧
    ∀ ps, quotation.Pieces s.toList ps ↔ ps = t.flatMap (Part.pieces σ)) statements templates

theorem Fill.of_bare {ι : Type} {templates : List (Template ι)}
    (h : templates.all (·.all Part.isBare) = true) (σ : ι → String) :
    Fill (templates.map (Template.fill σ)) templates σ := by
  rw [Fill, List.forall₂_map_left_iff, List.forall₂_same]
  intro t ht
  exact ⟨rfl, Template.pieces_fill σ (List.all_eq_true.mp h t ht)⟩

/-! ## The statements of processors -/

/-- The texts of the user in statements. -/
inductive Slot where
  | field
  | regex
  | timeKey
  | timeFormat
  | receiver
  | pipeline
  deriving DecidableEq, Repr

/-- A field of the body. -/
def bodySlot (s : Slot) : Template Slot :=
  [.code "body[", .slot s, .code "]"]

/-- What was read from a field. -/
def parsedPart : Template Slot :=
  [.code "cache[", .text "parsed", .code "]"]

/-- The statements that replace a field by what is made of it, and those that set the time. -/
def replaceTemplates (extract : Template Slot) (timed : Bool) : List (Template Slot) :=
  [.code "set(" :: parsedPart ++ .code ", " :: extract ++ .code ") where IsString(" ::
      bodySlot .field ++ [.code ")"],
    .code "delete_key(body, " :: .slot .field :: .code ") where " :: parsedPart ++
      [.code " != nil"],
    .code "merge_maps(body, " :: parsedPart ++ .code ", " :: .text "upsert" ::
      .code ") where " :: parsedPart ++ [.code " != nil"]] ++
  if timed then
    [.code "set(time, Time(" :: bodySlot .timeKey ++ .code ", " :: .slot .timeFormat ::
      .code ")) where " :: bodySlot .timeKey ++ [.code " != nil"]]
  else []

/-- Reading a field as JSON. -/
def jsonExtract : Template Slot :=
  .code "ParseJSON(" :: bodySlot .field ++ [.code ")"]

/-- Reading a field by an expression. -/
def regexExtract : Template Slot :=
  .code "ExtractPatterns(" :: bodySlot .field ++ [.code ", ", .slot .regex, .code ")"]

/-- The statement that sets an attribute to a text of the user. -/
def attributeTemplate (name : String) (s : Slot) : Template Slot :=
  [.code "set(", .code "attributes[", .text name, .code "], ", .slot s, .code ")"]

/-- The statements that mark a record with its instance. -/
def identityTemplates : List (Template Slot) :=
  [attributeTemplate CollectorGraph.logNameAttribute .receiver,
    attributeTemplate CollectorGraph.pipelineAttribute .pipeline]

theorem fill_parsedPart (σ : Slot → String) :
    "cache[\"parsed\"]" = Template.fill σ parsedPart := by
  have hquote : quote "parsed" = "\"parsed\"" := rfl
  rw [parsedPart, Template.fill, Template.fill, Template.fill, Template.fill, Part.write, Part.write,
    Part.write, hquote]
  rfl

theorem fill_bodySlot (σ : Slot → String) (s : Slot) :
    bodyRef (σ s) = Template.fill σ (bodySlot s) := by
  simp [bodyRef, bodySlot, Template.fill, Part.write, String.append_assoc]

/-- The program text of the statements has no quotation mark, if there is none in what reads the
field. -/
theorem isBare_replaceTemplates {extract : Template Slot} (h : extract.all Part.isBare = true)
    (timed : Bool) : (replaceTemplates extract timed).all (·.all Part.isBare) = true := by
  cases timed <;> simp [replaceTemplates, bodySlot, parsedPart, Part.isBare, List.all_append, h]

theorem replaceField_eq (σ : Slot → String) (extract : Template Slot)
    {timeKey timeFormat : Option String} (hkey : σ .timeKey = timeKey.getD "")
    (hformat : σ .timeFormat = timeFormat.getD "") :
    replaceField (σ .field) (Template.fill σ extract) timeKey timeFormat
      = (replaceTemplates extract (timeKey.isSome && timeFormat.isSome)).map
          (Template.fill σ) := by
  have hupsert : ", \"upsert\") where " = ", " ++ (quote "upsert" ++ ") where ") := rfl
  unfold replaceField
  rw [fill_parsedPart σ, fill_bodySlot, hupsert]
  cases timeKey with
  | none =>
      simp [replaceTemplates, Template.fill_append, Template.fill, Part.write, String.append_assoc]
  | some key =>
      obtain rfl : σ .timeKey = key := hkey
      cases timeFormat with
      | none =>
          simp [replaceTemplates, Template.fill_append, Template.fill, Part.write,
            String.append_assoc]
      | some format =>
          obtain rfl : σ .timeFormat = format := hformat
          simp [replaceTemplates, Template.fill_append, Template.fill, Part.write,
            String.append_assoc, fill_bodySlot]

/-- **The statements that replace a field** fill their templates, if what reads the field does. -/
theorem fill_replaceField (σ : Slot → String) {extract : Template Slot}
    (hbare : extract.all Part.isBare = true) (timeKey timeFormat : Option String)
    (hkey : σ .timeKey = timeKey.getD "") (hformat : σ .timeFormat = timeFormat.getD "") :
    Fill (replaceField (σ .field) (Template.fill σ extract) timeKey timeFormat)
      (replaceTemplates extract (timeKey.isSome && timeFormat.isSome)) σ := by
  rw [replaceField_eq σ extract hkey hformat]
  exact .of_bare (isBare_replaceTemplates hbare _) σ

end Statement

open Statement (Slot)

/-- The texts of the user in the statements of a processor that reads JSON. -/
def ParseJson.slots (p : ParseJson) : Slot → String
  | .field => p.bodyField
  | .timeKey => p.timeKey.getD ""
  | .timeFormat => p.timeFormat.getD ""
  | _ => ""

/-- The texts of the user in the statements of a processor that reads by an expression. -/
def ParseRegex.slots (p : ParseRegex) : Slot → String
  | .field => p.bodyField
  | .regex => p.collectorRegex
  | .timeKey => p.timeKey.getD ""
  | .timeFormat => p.timeFormat.getD ""
  | _ => ""

/-- The texts of the user in the statements that mark the records of an instance. -/
def LogInstance.slots (i : LogInstance) : Slot → String
  | .receiver => i.receiverId
  | .pipeline => i.pipeline
  | _ => ""

namespace Statement

/-- The extracting part of the statements for JSON. -/
theorem fill_jsonExtract (σ : Slot → String) :
    "ParseJSON(" ++ bodyRef (σ .field) ++ ")" = Template.fill σ jsonExtract := by
  simp [jsonExtract, fill_bodySlot, Template.fill_append, Template.fill, Part.write,
    String.append_assoc]

/-- The extracting part of the statements for an expression. -/
theorem fill_regexExtract (σ : Slot → String) :
    "ExtractPatterns(" ++ bodyRef (σ .field) ++ ", " ++ quote (σ .regex) ++ ")"
      = Template.fill σ regexExtract := by
  simp [regexExtract, fill_bodySlot, Template.fill_append, Template.fill, Part.write,
    String.append_assoc]

theorem fill_json (p : ParseJson) :
    Fill p.statements (replaceTemplates jsonExtract (p.timeKey.isSome && p.timeFormat.isSome))
      p.slots := by
  have hbare : jsonExtract.all Part.isBare = true := rfl
  have hfill := fill_replaceField p.slots hbare p.timeKey p.timeFormat rfl rfl
  rwa [← fill_jsonExtract] at hfill

theorem fill_regex (p : ParseRegex) :
    Fill p.statements (replaceTemplates regexExtract (p.timeKey.isSome && p.timeFormat.isSome))
      p.slots := by
  have hbare : regexExtract.all Part.isBare = true := rfl
  have hfill := fill_replaceField p.slots hbare p.timeKey p.timeFormat rfl rfl
  rwa [← fill_regexExtract] at hfill

theorem fill_identity (i : LogInstance) :
    Fill (CollectorGraph.identityNode i).logStatements identityTemplates i.slots := by
  have hset : ∀ name slot, CollectorGraph.setAttribute name (i.slots slot)
      = Template.fill i.slots (attributeTemplate name slot) := by
    intro name slot
    simp [CollectorGraph.setAttribute, attributeRef, attributeTemplate, Template.fill, Part.write,
      String.append_assoc]
  rw [CollectorGraph.identityNode, Node.logStatements_transform]
  have heq : [CollectorGraph.setAttribute CollectorGraph.logNameAttribute i.receiverId,
      CollectorGraph.setAttribute CollectorGraph.pipelineAttribute i.pipeline]
        = identityTemplates.map (Template.fill i.slots) := by
    rw [identityTemplates, List.map_cons, List.map_singleton, ← hset, ← hset]
    rfl
  rw [heq]
  exact .of_bare rfl _

/-- **Quoted texts stay texts.** Reading what was written for a text finds one literal, the whole,
which denotes the text. In all statements on log records, each text of the user is one literal at a
place of its own, and nothing else depends on it. -/
theorem quote_isolates :
    (∀ s, quote s = "\"" ++ Text.replace "\"" "\\\"" (Text.replace "\\" "\\\\" s) ++ "\"" ∧
      ∀ written denoted, written <+: (quote s).toList →
        (quotation.Literal written denoted ↔ written = (quote s).toList ∧ denoted = s.toList)) ∧
    (∀ p : ParseJson, ∃ ns, (LogProcessor.configured (.parseJson p)).nodes? = some ns ∧
      Fill (ns.flatMap Node.logStatements)
        (replaceTemplates jsonExtract (p.timeKey.isSome && p.timeFormat.isSome)) p.slots) ∧
    (∀ p : ParseRegex, ∃ ns, (LogProcessor.configured (.parseRegex p)).nodes? = some ns ∧
      Fill (ns.flatMap Node.logStatements)
        (replaceTemplates regexExtract (p.timeKey.isSome && p.timeFormat.isSome)) p.slots) ∧
    ∀ i : LogInstance,
      Fill (CollectorGraph.identityNode i).logStatements identityTemplates i.slots := by
  refine ⟨fun s => ⟨quote_eq_replace s, fun _ _ h => (literal_quote s).iff_whole h⟩, ?_, ?_,
    fill_identity⟩
  · intro p
    refine ⟨_, rfl, ?_⟩
    rw [List.flatMap_singleton, Node.logStatements_transform]
    exact fill_json p
  · intro p
    refine ⟨_, rfl, ?_⟩
    rw [List.flatMap_singleton, Node.logStatements_transform]
    exact fill_regex p

/-- A text that tries to end its literal. -/
theorem quote_isolates_endingText :
    quotation.Literal "\"a\\\"b\\\\\"".toList "a\"b\\".toList ∧
      ¬ ∃ denoted, quotation.Literal "\"a\\\"".toList denoted := by
  have hquote : quote "a\"b\\" = "\"a\\\"b\\\\\"" := rfl
  have hone := (quote_isolates.1 "a\"b\\").2
  rw [hquote] at hone
  refine ⟨(hone _ _ (List.prefix_refl _)).mpr ⟨rfl, rfl⟩, ?_⟩
  rintro ⟨denoted, h⟩
  exact absurd ((hone _ _ (by decide)).mp h).1 (by decide)

end Statement

end Telemetry
