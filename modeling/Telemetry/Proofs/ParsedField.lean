import Telemetry.Proofs.Calls
import Telemetry.Proofs.Document
import Telemetry.Proofs.Literals

/-!
# The field to parse

A processor that reads a field is asked for once, and becomes filters with a script for the log
engine and statements for the collector. Both have the name of the field in several places, which
are read here as those who run them read them.

* **`filters_field`** — the filters parse the field that is named, or `message` if there is no name
  or an empty one, and their script is made for that field.
* **`statements_field`** — the statements read and delete the field that is named, an empty name
  included.
* **`namesField_iff`** — so these are the names that all places have; an empty one is not among them
  (**`namesField_readsNameless`**).
-/

namespace Telemetry

/-! ## The places that name the field -/

/-- The names of the fields that filters parse. -/
def parsedKeys (ss : List Section) : List (Option String) :=
  (Section.valuesIn [.filter] "Key_Name" ss).map some

/-- The scripts with which filters put fields aside, as far as their files are there. -/
def nestScripts (ss : List Section) : List (Option String) :=
  ((ss.filterMap Section.call?).filter (·.2 = ["parser_nest"])).map fun call =>
    call.1.head?.bind fun name => (ss.filterMap Section.file?).lookup name

/-- The fields that scripts leave in place when they put the others aside. -/
def leftFields (ss : List Section) : List (Option String) :=
  (nestScripts ss).map fun script => script.bind Lua.leftField?

/-- The items of a list. -/
def Tree.items : Tree → List Tree
  | list ts => ts
  | _ => []

/-- The text of a scalar. -/
def Tree.text? : Tree → Option String
  | text s => some s
  | _ => none

/-- The statements that a component runs on log records. -/
def Node.logStatements (n : Node) : List String :=
  ((n.config.child? "log_statements").elim [] Tree.items).flatMap fun group =>
    ((group.child? "statements").elim [] Tree.items).filterMap Tree.text?

theorem Tree.filterMap_items_texts (xs : List String) :
    (Tree.texts xs).items.filterMap Tree.text? = xs := by
  rw [texts, items, List.filterMap_map]
  exact List.filterMap_some

theorem Node.logStatements_transform (statements : List String) :
    (Node.transform "log" "log" statements).logStatements = statements := by
  have hgroups : (Node.transform "log" "log" statements).config.child? "log_statements"
      = some (.list [.table [("context", .text "log"), ("statements", .texts statements)]]) :=
    Tree.child?_of_mem (by simp only [List.map_cons, List.map_nil]; decide) (by simp)
  have hstatements :
      (Tree.table [("context", .text "log"), ("statements", .texts statements)]).child? "statements"
        = some (.texts statements) := Tree.child?_of_mem (by simp) (by simp)
  rw [logStatements, hgroups, Option.elim_some, Tree.items, List.flatMap_singleton, hstatements,
    Option.elim_some, Tree.filterMap_items_texts]

namespace Statement

/-- A word in a statement. -/
def Token.ofWord (s : String) : Token := .word s.toList

/-- The name in a text of a statement. -/
def name? (cs : List Char) : Option String :=
  (undollared cs).map String.ofList

/-- A name without dollar signs is read as it is. -/
theorem name?_toList {name : String} : name? name.toList = some name ↔ '$' ∉ name.toList := by
  rw [← undollared_eq_self_iff, name?, Option.map_eq_some_iff]
  refine ⟨?_, fun h => ⟨_, h, String.ofList_toList⟩⟩
  rintro ⟨cs, hcs, rfl⟩
  rwa [String.toList_ofList] at hcs ⊢

/-- The fields of the body to which tokens refer. -/
def bodyFields : List Token → List (Option String)
  | [] => []
  | t :: ts =>
    match ts with
    | .symbol '[' :: .text cs :: .symbol ']' :: _ =>
      if t = .ofWord "body" then name? cs :: bodyFields ts else bodyFields ts
    | _ => bodyFields ts

/-- How a statement begins that keeps what it reads for those that follow. -/
def extractHead : List Token :=
  [.ofWord "set", .symbol '(', .ofWord "cache", .symbol '[', .text "parsed".toList, .symbol ']',
    .symbol ',']

/-- The fields of the body that a statement reads if it is one of these. -/
def extractedFields (statement : String) : List (Option String) :=
  match (tokens? statement).bind (List.dropPrefix? · extractHead) with
  | some ts => bodyFields ts
  | none => []

/-- How a statement begins that deletes a field of the body. -/
def deleteHead : List Token :=
  [.ofWord "delete_key", .symbol '(', .ofWord "body", .symbol ',']

/-- How a statement begins that sets the time. -/
def timeHead : List Token :=
  [.ofWord "set", .symbol '(', .ofWord "time", .symbol ',', .ofWord "Time", .symbol '(']

/-- The field of the body that a statement deletes if it is one of these. -/
def deletedFields (statement : String) : List (Option String) :=
  match (tokens? statement).bind (List.dropPrefix? · deleteHead) with
  | some (.text cs :: .symbol ')' :: _) => [name? cs]
  | _ => []

theorem reads_comma : Reads ", " [.symbol ','] := rfl

theorem reads_close : Reads ")" [.symbol ')'] := rfl

theorem reads_deleteHead : Reads "delete_key(body, " deleteHead := rfl

theorem reads_timeHead : Reads "set(time, Time(" timeHead := rfl

theorem reads_bodyRef (field : String) : Reads (bodyRef field)
    [.ofWord "body", .symbol '[', .text field.toList, .symbol ']'] := by
  have hopen : Reads "body[" [.ofWord "body", .symbol '['] := rfl
  have hclose : Reads "]" [.symbol ']'] := rfl
  exact (hopen.append (reads_quote field)).append hclose

/-- Statements read and delete exactly some fields of the body, one after the other. -/
structure Touches (statements : List String) (reads deletes : List (Option String)) : Prop where
  extracted : statements.flatMap extractedFields = reads
  deleted : statements.flatMap deletedFields = deletes

namespace Touches

theorem nil : Touches [] [] [] := ⟨rfl, rfl⟩

theorem append {ss ss' : List String} {reads reads' deletes deletes' : List (Option String)}
    (h : Touches ss reads deletes) (h' : Touches ss' reads' deletes') :
    Touches (ss ++ ss') (reads ++ reads') (deletes ++ deletes') := by
  refine ⟨?_, ?_⟩
  · rw [List.flatMap_append, h.extracted, h'.extracted]
  · rw [List.flatMap_append, h.deleted, h'.deleted]

/-- One statement, by its tokens. -/
theorem of_tokens? {s : String} {ts : Option (List Token)} (h : tokens? s = ts)
    {reads deletes : List (Option String)}
    (hreads : (match ts.bind (List.dropPrefix? · extractHead) with
      | some ts => bodyFields ts
      | none => []) = reads)
    (hdeletes : (match ts.bind (List.dropPrefix? · deleteHead) with
      | some (.text cs :: .symbol ')' :: _) => [name? cs]
      | _ => []) = deletes) : Touches [s] reads deletes := by
  subst h
  refine ⟨?_, ?_⟩
  · rw [List.flatMap_singleton, extractedFields, hreads]
  · rw [List.flatMap_singleton, deletedFields, hdeletes]

end Touches

/-- The tokens behind what reads a field: the field has to be a text. -/
def testTokens (field : String) : List Token :=
  [.symbol ')', .ofWord "where", .ofWord "IsString", .symbol '(', .ofWord "body", .symbol '[',
    .text field.toList, .symbol ']', .symbol ')']

/-- The tokens of the statement that reads a field, whatever it is that reads it. -/
theorem tokens?_extract {extract : String} {ts : List Token} (h : Reads extract ts)
    (field : String) :
    tokens? ("set(" ++ "cache[\"parsed\"]" ++ ", " ++ extract ++ ") where IsString(" ++ bodyRef field
      ++ ")") = some (extractHead ++ (ts ++ testTokens field)) := by
  have hhead : Reads ("set(" ++ "cache[\"parsed\"]" ++ ", ") extractHead := rfl
  have hwhere : Reads ") where IsString("
      [.symbol ')', .ofWord "where", .ofWord "IsString", .symbol '('] := rfl
  have htokens := ((((hhead.append h).append hwhere).append (reads_bodyRef field)).append
    reads_close).tokens?
  simp only [List.append_assoc] at htokens
  exact htokens

/-- The statement that reads a field reads it where it is tested too. -/
theorem touches_extract {extract : String} {ts : List Token} (h : Reads extract ts)
    (field : String) :
    Touches ["set(" ++ "cache[\"parsed\"]" ++ ", " ++ extract ++ ") where IsString(" ++ bodyRef field
      ++ ")"] (bodyFields (ts ++ testTokens field)) [] := by
  refine .of_tokens? (tokens?_extract h field) ?_ rfl
  rw [Option.bind_some, List.dropPrefix?_append_of_beq _ BEq.rfl]

theorem touches_delete (field : String) :
    Touches ["delete_key(body, " ++ quote field ++ ") where " ++ "cache[\"parsed\"]" ++ " != nil"] []
      [name? field.toList] := by
  have hwhere : Reads ") where " [.symbol ')', .ofWord "where"] := rfl
  have hparsed : Reads "cache[\"parsed\"]"
      [.ofWord "cache", .symbol '[', .text "parsed".toList, .symbol ']'] := rfl
  have hnil : tokens? " != nil" = some [.symbol '!', .symbol '=', .ofWord "nil"] := rfl
  have htokens := (((reads_deleteHead.append (reads_quote field)).append hwhere).append
    hparsed).tokens?_append " != nil"
  rw [hnil] at htokens
  exact .of_tokens? htokens rfl rfl

theorem touches_merge : Touches ["merge_maps(body, " ++ "cache[\"parsed\"]" ++ ", \"upsert\") where "
    ++ "cache[\"parsed\"]" ++ " != nil"] [] [] :=
  ⟨rfl, rfl⟩

/-- A statement that sets the time, whatever the time is made from. -/
theorem touches_time (rest : String) : Touches ["set(time, Time(" ++ rest] [] [] := by
  refine .of_tokens? (reads_timeHead.tokens?_append rest) ?_ ?_ <;> cases tokens? rest <;> rfl

/-- **The statements that replace a field** read what `extract` reads and the field that is tested,
and delete that field. -/
theorem touches_replaceField {extract : String} {ts : List Token} (h : Reads extract ts)
    (field : String) (timeKey timeFormat : Option String) :
    Touches (replaceField field extract timeKey timeFormat) (bodyFields (ts ++ testTokens field))
      [name? field.toList] := by
  have hbase := ((touches_extract h field).append (touches_delete field)).append touches_merge
  unfold replaceField
  split
  · rename_i key format
    have htime := touches_time (bodyRef key ++ ", " ++ quote format ++ ")) where " ++ bodyRef key
      ++ " != nil")
    simpa only [String.append_assoc, List.append_nil, List.nil_append, List.cons_append]
      using hbase.append htime
  · simpa only [List.append_nil, List.nil_append, List.cons_append] using hbase.append .nil

end Statement

open Statement in
theorem ParseJson.touches_statements (p : ParseJson) :
    Touches p.statements [name? p.bodyField.toList, name? p.bodyField.toList]
      [name? p.bodyField.toList] := by
  have hopen : Reads "ParseJSON(" [.ofWord "ParseJSON", .symbol '('] := rfl
  exact touches_replaceField ((hopen.append (reads_bodyRef p.bodyField)).append reads_close) _ _ _

open Statement in
/-- What takes a field apart by an expression. -/
theorem ParseRegex.reads_extract (p : ParseRegex) :
    Reads ("ExtractPatterns(" ++ bodyRef p.bodyField ++ ", " ++ quote p.collectorRegex ++ ")")
      [.ofWord "ExtractPatterns", .symbol '(', .ofWord "body", .symbol '[',
        .text p.bodyField.toList, .symbol ']', .symbol ',', .text p.collectorRegex.toList,
        .symbol ')'] := by
  have hopen : Reads "ExtractPatterns(" [.ofWord "ExtractPatterns", .symbol '('] := rfl
  exact (((hopen.append (reads_bodyRef p.bodyField)).append reads_comma).append
    (reads_quote p.collectorRegex)).append reads_close

open Statement in
theorem ParseRegex.touches_statements (p : ParseRegex) :
    Touches p.statements [name? p.bodyField.toList, name? p.bodyField.toList]
      [name? p.bodyField.toList] :=
  touches_replaceField p.reads_extract _ _ _

/-! ## The filters -/

theorem Filter.parseKey_eq_getD {field : Option String} (h : field ≠ some "") :
    parseKey field = field.getD defaultParseKey := by
  cases field with
  | none => rfl
  | some f => exact if_neg fun hf => h (congrArg some hf)

theorem Filter.parseKey_ne_empty (field : Option String) : parseKey field ≠ "" := by
  cases field with
  | none => decide
  | some f =>
      rw [parseKey]
      split
      · decide
      · assumption

/-- The filters around a parser parse the field and put the others aside. -/
theorem Filter.parseChain_field (routing : String) (field : Option String) (parsers : List String)
    (preserveKey : Bool) :
    parsedKeys (parseChain routing field parsers preserveKey) = [some (parseKey field)] ∧
      nestScripts (parseChain routing field parsers preserveKey)
        = [some (Script.nest (parseKey field))] := by
  have hcalls := Calls.parseChain routing field parsers preserveKey
  have hparsers : (parsers.map fun p => ("Parser", p)).filter (·.1 = "Key_Name") = [] :=
    Carries.filter_entries_eq_nil (fun _ => by simp) parsers
  refine ⟨?_, ?_⟩
  · cases preserveKey <;>
      simp [parsedKeys, parseChain, Script.filter, Section.valuesIn_cons, Section.values_eq, parse,
        named, Section.ofFields, Section.ofFile, hparsers]
  · -- the first file of the name is that of the script itself
    rw [nestScripts, hcalls.filters, hcalls.files]
    simp [Calls.aroundParser]

/-- A parser in front of filters parses no field by itself, and puts none aside. -/
theorem ParserDef.places_cons (d : ParserDef) (ss : List Section) :
    parsedKeys (d.toSection :: ss) = parsedKeys ss ∧
      nestScripts (d.toSection :: ss) = nestScripts ss := by
  have hcall : d.toSection.call? = none := by simp [Section.call?, Carries.kind_parserDef]
  have hfile : d.toSection.file? = none := by simp [Section.file?, Carries.kind_parserDef]
  refine ⟨?_, ?_⟩
  · simp [parsedKeys, Section.valuesIn_cons, Carries.kind_parserDef]
  · rw [nestScripts, nestScripts, List.filterMap_cons_none hcall, List.filterMap_cons_none hfile]

/-- A parser with its filters. -/
theorem Filter.parseChain_field_cons (d : ParserDef) (routing : String) (field : Option String)
    (parsers : List String) :
    parsedKeys (d.toSection :: parseChain routing field parsers false) = [some (parseKey field)] ∧
      nestScripts (d.toSection :: parseChain routing field parsers false)
        = [some (Script.nest (parseKey field))] := by
  obtain ⟨hkeys, hscripts⟩ := d.places_cons (parseChain routing field parsers false)
  rw [hkeys, hscripts]
  exact parseChain_field routing field parsers false

/-! ## One processor -/

namespace LogProcessorConfig

/-- What a processor says about the field to parse, if it parses one. -/
def parseField? : LogProcessorConfig → Option (Option String)
  | parseJson p => some p.field
  | parseRegex p => some p.field
  | _ => none

variable {config : LogProcessorConfig} {field : Option String}

/-- **What the log engine parses**: the field that is named, and `message` if the name is missing or
empty. The script compares with the same name. -/
theorem filters_field (hfield : config.parseField? = some field) (tag : Tag) (uid : String) :
    ∃ ss, (LogProcessor.configured config).sections? tag uid = some ss ∧
      parsedKeys ss = [some (Filter.parseKey field)] ∧
      nestScripts ss = [some (Script.nest (Filter.parseKey field))] := by
  cases config with
  | parseJson p =>
      obtain rfl := Option.some.inj hfield
      exact ⟨_, rfl, Filter.parseChain_field_cons _ _ _ _⟩
  | parseRegex p =>
      obtain rfl := Option.some.inj hfield
      exact ⟨_, rfl, Filter.parseChain_field_cons _ _ _ _⟩
  | _ => exact nomatch hfield

/-- **What the collector reads and deletes**: the field that is named, also if the name is empty, and
`message` if there is none. -/
theorem statements_field (hfield : config.parseField? = some field) :
    ∃ ns, (LogProcessor.configured config).nodes? = some ns ∧
      let name := Statement.name? (field.getD Filter.defaultParseKey).toList
      Statement.Touches (ns.flatMap Node.logStatements) [name, name] [name] := by
  cases config with
  | parseJson p =>
      obtain rfl := Option.some.inj hfield
      refine ⟨_, rfl, ?_⟩
      rw [List.flatMap_singleton, Node.logStatements_transform]
      exact p.touches_statements
  | parseRegex p =>
      obtain rfl := Option.some.inj hfield
      refine ⟨_, rfl, ?_⟩
      rw [List.flatMap_singleton, Node.logStatements_transform]
      exact p.touches_statements
  | _ => exact nomatch hfield

/-- All places that name the field to parse have one name. -/
structure NamesField (ss : List Section) (ns : List Node) (name : String) : Prop where
  /-- The key of the filter that parses. -/
  parsed : parsedKeys ss = [some name]
  /-- The field that the script in front of it leaves in place. -/
  left : leftFields ss = [some name]
  /-- The field of the body that is tested, read and deleted. -/
  touched : Statement.Touches (ns.flatMap Node.logStatements) [some name, some name] [some name]

/-- **The log engine and the collector parse one field** exactly if it has the name that is asked
for, which is `message` if nothing is said, and this name is not empty and can stand in a script and
in a document as it is. -/
theorem namesField_iff (hfield : config.parseField? = some field) (tag : Tag) (uid : String) :
    ∃ ss ns, (LogProcessor.configured config).sections? tag uid = some ss ∧
      (LogProcessor.configured config).nodes? = some ns ∧
      ∀ name, NamesField ss ns name ↔
        name = field.getD Filter.defaultParseKey ∧ name ≠ "" ∧
          (∀ c ∈ name.toList, Lua.Plain c) ∧ '$' ∉ name.toList := by
  obtain ⟨ss, hss, hkeys, hscripts⟩ := filters_field hfield tag uid
  obtain ⟨ns, hns, htouches⟩ := statements_field hfield
  refine ⟨ss, ns, hss, hns, fun name => ⟨fun h => ?_, ?_⟩⟩
  · obtain rfl : Filter.parseKey field = name := by simpa [hkeys] using h.parsed
    have hname : Statement.name? (field.getD Filter.defaultParseKey).toList
        = some (Filter.parseKey field) := by
      simpa [htouches.deleted] using h.touched.deleted
    -- an empty name is the only one that the two do not take alike
    have hfilled : field ≠ some "" := by
      rintro rfl
      exact absurd hname (by decide)
    have hscript : Lua.leftField? (Script.nest (Filter.parseKey field))
        = some (Filter.parseKey field) := by
      simpa [leftFields, hscripts] using h.left
    rw [← Filter.parseKey_eq_getD hfilled] at hname ⊢
    exact ⟨rfl, Filter.parseKey_ne_empty field, Lua.leftField?_nest.mp hscript,
      Statement.name?_toList.mp hname⟩
  · rintro ⟨rfl, hempty, hplain, hdollar⟩
    have hfilled : field ≠ some "" := by
      rintro rfl
      exact hempty rfl
    rw [Statement.name?_toList.mpr hdollar] at htouches
    rw [Filter.parseKey_eq_getD hfilled] at hkeys hscripts
    refine ⟨hkeys, ?_, htouches⟩
    rw [leftFields, hscripts, List.map_singleton, Option.bind_some, Lua.leftField?_nest.mpr hplain]

/-- Reads the field `log` as JSON. -/
def readsLog : LogProcessorConfig := .parseJson { field := some "log" }

/-- Everywhere the field is `log`. -/
theorem namesField_iff_readsLog : readsLog.parseField? = some (some "log") ∧
    ∃ ss ns, (LogProcessor.configured readsLog).sections? (.ofText "p.r") "p.r.0" = some ss ∧
      (LogProcessor.configured readsLog).nodes? = some ns ∧ NamesField ss ns "log" := by
  have hfield : readsLog.parseField? = some (some "log") := rfl
  obtain ⟨ss, ns, hss, hns, h⟩ := namesField_iff hfield (.ofText "p.r") "p.r.0"
  have hplain : ∀ c ∈ "log".toList, Lua.Plain c := by simp [Lua.Plain]
  exact ⟨hfield, ss, ns, hss, hns, (h "log").mpr ⟨rfl, by decide, hplain, by decide⟩⟩

/-- Reads a field without a name as JSON. -/
def readsNameless : LogProcessorConfig := .parseJson { field := some "" }

/-- **An empty name** is accepted, and is `message` for the log engine alone. -/
theorem namesField_readsNameless : readsNameless.check "json" = .ok () ∧
    ∃ ss ns, (LogProcessor.configured readsNameless).sections? (.ofText "p.r") "p.r.0" = some ss ∧
      (LogProcessor.configured readsNameless).nodes? = some ns ∧
      parsedKeys ss = [some "message"] ∧ leftFields ss = [some "message"] ∧
      Statement.Touches (ns.flatMap Node.logStatements) [some "", some ""] [some ""] ∧
      ¬ ∃ name, NamesField ss ns name := by
  have hfield : readsNameless.parseField? = some (some "") := rfl
  obtain ⟨ss, hss, hkeys, hscripts⟩ := filters_field hfield (.ofText "p.r") "p.r.0"
  obtain ⟨ns, hns, htouches⟩ := statements_field hfield
  refine ⟨rfl, ss, ns, hss, hns, hkeys, ?_, htouches, ?_⟩
  · have hplain : ∀ c ∈ "message".toList, Lua.Plain c := by simp [Lua.Plain]
    rw [leftFields, hscripts, List.map_singleton, Option.bind_some]
    exact congrArg (fun name => [name]) (Lua.leftField?_nest.mpr hplain)
  · rintro ⟨name, h⟩
    have hkey : [some "message"] = [some name] := hkeys.symm.trans h.parsed
    have hdeleted : [some ""] = [some name] := htouches.deleted.symm.trans h.touched.deleted
    exact absurd (hkey.trans hdeleted.symm) (by decide)

end LogProcessorConfig

end Telemetry
