import Telemetry.Proofs.Failing
import Telemetry.Section.Script

/-!
# Reading scripts

A script is Lua, of which this file reads the part in which the scripts of filters are written: a
list of functions, global or local. The reader is meant to accept nothing that some version of the
language refuses; of escapes, for example, it knows those that all versions have. Only where lines
end it does not see outside of texts and comments, and some versions want the arguments of a call to
begin on the line of the call.

* **`tokens`** — the tokens of a script. The reader goes over the characters one by one
  (**`run_append`**), so that a part of a script can be looked at by itself.
* **`defines`** — whether a script can be loaded and has a global function then.
* **`defines_inserted`** — what is inserted between quotation marks changes nothing of that, if it
  can stand there as it is (**`Inside`**).
-/

namespace Telemetry.Lua

open Failing

/-! ## Tokens -/

/-- A token. What stands in a text or a number does not count. -/
inductive Token where
  /-- A name or a keyword. -/
  | word (cs : List Char)
  | symbol (cs : List Char)
  | number
  | text
  deriving DecidableEq

/-- The token of a keyword. -/
def keyword (s : String) : Token := .word s.toList

/-- The token of a symbol. -/
def symbol (s : String) : Token := .symbol s.toList

/-- Why a script has no tokens. -/
inductive Fault where
  /-- A line or the script ends within a text. -/
  | openText
  /-- Characters that are not read. -/
  | unknown
  deriving DecidableEq

/-- What the reader is in the middle of. -/
inductive Place where
  | between
  | word (cs : List Char)
  | number
  /-- A symbol that may go on. -/
  | symbol (c : Char)
  /-- Two dots, which may become three. -/
  | dots
  | text (quote : Char)
  /-- Behind a backslash in a text. -/
  | escape (quote : Char)
  /-- Behind two dashes. -/
  | dashes
  | comment
  deriving DecidableEq

/-- The characters of words. -/
def isWordChar (c : Char) : Bool :=
  c.isAlphanum || c = '_'

/-- The symbols that no other goes on from. -/
def plainSymbols : List Char :=
  "+*/%^#()\x7b\x7d;:,]".toList

/-- The symbols that others go on from. -/
def openSymbols : List Char :=
  "=~<>-[.".toList

/-- The characters that can stand behind a backslash. -/
def escapable : List Char :=
  "abfnrtv\\\"'".toList

/-- Reads the first character of something. -/
def start (c : Char) : Except Fault (List Token × Place) :=
  if c = ' ' ∨ c = '\t' ∨ c = '\n' ∨ c = '\r' then .ok ([], .between)
  else if c.isDigit then .ok ([], .number)
  else if isWordChar c then .ok ([], .word [c])
  else if c = '"' ∨ c = '\'' then .ok ([], .text c)
  else if c ∈ plainSymbols then .ok ([.symbol [c]], .between)
  else if c ∈ openSymbols then .ok ([], .symbol c)
  else .error .unknown

/-- Ends a token, and reads the first character behind it. -/
def behind (t : Token) (c : Char) : Except Fault (List Token × Place) := do
  let (ts, place) ← start c
  return (t :: ts, place)

/-- Reads one character. -/
def step (place : Place) (c : Char) : Except Fault (List Token × Place) :=
  match place with
  | .between => start c
  | .word cs => if isWordChar c then .ok ([], .word (cs ++ [c])) else behind (.word cs) c
  | .number =>
    if c.isDigit then .ok ([], .number)
    else if isWordChar c || c = '.' then .error .unknown
    else behind .number c
  | .symbol s =>
    if c = '=' ∧ s ∈ ['=', '~', '<', '>'] then .ok ([.symbol [s, c]], .between)
    else if s = '-' ∧ c = '-' then .ok ([], .dashes)
    else if s = '.' ∧ c = '.' then .ok ([], .dots)
    else if s = '~' ∨ (s = '[' ∧ (c = '[' ∨ c = '=')) ∨ (s = '.' ∧ c.isDigit) then .error .unknown
    else behind (.symbol [s]) c
  | .dots => if c = '.' then .error .unknown else behind (.symbol ['.', '.']) c
  | .text quote =>
    if c = quote then .ok ([.text], .between)
    else if c = '\\' then .ok ([], .escape quote)
    else if c = '\n' ∨ c = '\r' then .error .openText
    else .ok ([], .text quote)
  | .escape quote => if c ∈ escapable then .ok ([], .text quote) else .error .unknown
  | .dashes =>
    if c = '[' then .error .unknown
    else if c = '\n' then .ok ([], .between)
    else .ok ([], .comment)
  | .comment => if c = '\n' then .ok ([], .between) else .ok ([], .comment)

/-- Reads characters, from one place to another. -/
def run (place : Place) : List Char → Except Fault (List Token × Place)
  | [] => .ok ([], place)
  | c :: cs => do
    let (ts, place) ← step place c
    let (ts', place) ← run place cs
    return (ts ++ ts', place)

/-- The tokens of a script, after which a line has to end. -/
def tokens (script : List Char) : Except Fault (List Token) :=
  match run .between script with
  | .ok (ts, .between) => .ok ts
  | .ok (_, .text _) => .error .openText
  | .ok _ => .error .unknown
  | .error e => .error e

/-- Characters are read one part after the other. -/
theorem run_append {place : Place} {as : List Char} {ts : List Token} {place' : Place}
    (h : run place as = .ok (ts, place')) (bs : List Char) :
    run place (as ++ bs) = (run place' bs).map fun x => (ts ++ x.1, x.2) := by
  induction as generalizing place ts with
  | nil =>
      obtain ⟨rfl, rfl⟩ := Prod.mk.inj (Except.ok.inj h)
      rw [List.nil_append]
      cases run place bs <;> rfl
  | cons c as ih =>
      obtain ⟨⟨ts₁, place₁⟩, hstep, h⟩ := bind_eq_ok.mp h
      obtain ⟨⟨ts₂, place₂⟩, hrun, h⟩ := bind_eq_ok.mp h
      obtain ⟨rfl, rfl⟩ := Prod.mk.inj (Except.ok.inj h)
      rw [List.cons_append, run, hstep]
      -- the tokens of the first character stay in front
      show (run place₁ (as ++ bs) >>= fun x => Except.ok (ts₁ ++ x.1, x.2)) = _
      rw [ih hrun]
      cases run place₂ bs with
      | error e => rfl
      | ok x => exact congrArg (fun l => Except.ok (l, x.2)) (List.append_assoc ts₁ ts₂ x.1).symm

/-! ## Functions -/

/-- The keywords. -/
def keywords : List Token :=
  ["and", "break", "do", "else", "elseif", "end", "false", "for", "function", "if", "in", "local",
   "nil", "not", "or", "repeat", "return", "then", "true", "until", "while"].map keyword

/-- Passes over one token. -/
def expect (t : Token) : List Token → Option (List Token)
  | t' :: ts => if t' = t then some ts else none
  | [] => none

/-- Passes over one name. -/
def name : List Token → Option (List Token)
  | .word cs :: ts => if .word cs ∈ keywords then none else some ts
  | _ => none

/-- Passes over names with commas between them. -/
def names : Nat → List Token → Option (List Token)
  | 0, _ => none
  | n + 1, ts => do
    let ts ← name ts
    match expect (symbol ",") ts with
    | some ts => names n ts
    | none => some ts

/-- The operators in front of an operand. -/
def isPrefixOperator (t : Token) : Bool :=
  t ∈ [symbol "-", symbol "#", keyword "not"]

/-- The operators between two operands. -/
def isOperator (t : Token) : Bool :=
  t ∈ [symbol "+", symbol "-", symbol "*", symbol "/", symbol "%", symbol "^", symbol "..",
    symbol "<", symbol "<=", symbol ">", symbol ">=", symbol "==", symbol "~=", keyword "and",
    keyword "or"]

/-- The operands of one token. -/
def isConstant (t : Token) : Bool :=
  t ∈ [.text, .number, keyword "nil", keyword "true", keyword "false"]

/-- The keywords behind a block. -/
def endsBlock : List Token → Bool
  | t :: _ => t ∈ [keyword "end", keyword "else", keyword "elseif"]
  | [] => false

/-- Whether a path ends in a call. -/
abbrev IsCall := Bool

mutual

/-- Passes over an expression. -/
def expression : Nat → List Token → Option (List Token)
  | 0, _ => none
  | n + 1, ts => do
    let ts ← operand n (ts.dropWhile isPrefixOperator)
    match ts with
    | [] => some []
    | t :: rest => if isOperator t then expression n rest else some ts

/-- Passes over expressions with commas between them. -/
def expressions : Nat → List Token → Option (List Token)
  | 0, _ => none
  | n + 1, ts => do
    let ts ← expression n ts
    match expect (symbol ",") ts with
    | some ts => expressions n ts
    | none => some ts

/-- Passes over a constant, an empty table or a path. -/
def operand : Nat → List Token → Option (List Token)
  | 0, _ => none
  | _, [] => none
  | n + 1, t :: ts =>
    if isConstant t then some ts
    else if t = symbol "\x7b" then expect (symbol "\x7d") ts
    else (path n (t :: ts)).map (·.2)

/-- Passes over a name and what is selected from it or called. -/
def path : Nat → List Token → Option (IsCall × List Token)
  | 0, _ => none
  | n + 1, ts => do
    let ts ← name ts
    steps n false ts

/-- Passes over selections and calls. -/
def steps : Nat → IsCall → List Token → Option (IsCall × List Token)
  | 0, _, _ => none
  | _, called, [] => some (called, [])
  | n + 1, called, t :: ts =>
    if t = symbol "." then do
      let ts ← name ts
      steps n false ts
    else if t = symbol "[" then do
      let ts ← expression n ts
      let ts ← expect (symbol "]") ts
      steps n false ts
    else if t = symbol "(" then
      match expect (symbol ")") ts with
      | some ts => steps n true ts
      | none => do
        let ts ← expressions n ts
        let ts ← expect (symbol ")") ts
        steps n true ts
    else some (called, t :: ts)

end

mutual

/-- Passes over one statement. -/
def statement : Nat → List Token → Option (List Token)
  | 0, _ => none
  | n + 1, ts =>
    match expect (keyword "if") ts with
    | some ts => branch n ts
    | none =>
    match expect (keyword "for") ts with
    | some ts => do
      let ts ← names n ts
      let ts ← expect (keyword "in") ts
      let ts ← expressions n ts
      let ts ← expect (keyword "do") ts
      let ts ← block n ts
      expect (keyword "end") ts
    | none =>
    match expect (keyword "local") ts with
    | some ts => do
      let ts ← names n ts
      let ts ← expect (symbol "=") ts
      expressions n ts
    | none => do
      -- a call, or a variable that gets a value
      let (called, ts) ← path n ts
      if called then some ts
      else
        let ts ← expect (symbol "=") ts
        expression n ts

/-- Passes over a condition with its block, and what comes if it does not hold. -/
def branch : Nat → List Token → Option (List Token)
  | 0, _ => none
  | n + 1, ts => do
    let ts ← expression n ts
    let ts ← expect (keyword "then") ts
    let ts ← block n ts
    match expect (keyword "elseif") ts with
    | some ts => branch n ts
    | none =>
    match expect (keyword "else") ts with
    | some ts => do
      let ts ← block n ts
      expect (keyword "end") ts
    | none => expect (keyword "end") ts

/-- Passes over statements up to the end of their block; nothing follows a `return`. -/
def block : Nat → List Token → Option (List Token)
  | 0, _ => none
  | n + 1, ts =>
    if endsBlock ts then some ts
    else match expect (keyword "return") ts with
      | some ts => do
        let ts ← expressions n ts
        if endsBlock ts then some ts else none
      | none => do
        let ts ← statement n ts
        block n ts

end

/-- Passes over the parameters and the block of a function. -/
def body (n : Nat) (ts : List Token) : Option (List Token) := do
  let ts ← expect (symbol "(") ts
  let ts ← names n ts
  let ts ← expect (symbol ")") ts
  let ts ← block n ts
  expect (keyword "end") ts

/-- The global functions of a script that is a list of functions. A local one hides later ones of
its name. -/
def globals : Nat → List Token → Option (List (List Char))
  | 0, _ => none
  | _, [] => some []
  | n + 1, ts => do
    let inner := expect (keyword "local") ts
    let ts ← expect (keyword "function") (inner.getD ts)
    let rest ← name ts
    let rest ← body n rest
    let fs ← globals n rest
    match ts, inner with
    | .word f :: _, none => some (f :: fs)
    | .word f :: _, some _ => some (fs.filter (· ≠ f))
    | _, _ => none

/-- The global functions of a script, if it can be loaded. Each step passes over some token, or is
one of a few that lead to such a step. -/
def functions (script : List Char) : Option (List (List Char)) :=
  match tokens script with
  | .ok ts => globals (8 * ts.length) ts
  | .error _ => none

/-- Whether a script can be loaded and has a global function then. -/
def defines (script function : String) : Bool :=
  ((functions script.toList).getD []).elem function.toList

/-! ## Texts in a script -/

/-- A text can stand between quotation marks as it is. -/
def Inside (s : String) : Prop :=
  run (.text '"') s.toList = .ok ([], .text '"')

/-- A text without quotation marks, backslashes and line breaks can stand between quotation
marks. -/
theorem inside_of_plain {s : String} (h : ∀ c ∈ s.toList, c ∉ ['"', '\\', '\n', '\r']) :
    Inside s := by
  have key : ∀ cs : List Char, (∀ c ∈ cs, c ∉ ['"', '\\', '\n', '\r']) →
      run (.text '"') cs = .ok ([], .text '"') := by
    intro cs
    induction cs with
    | nil =>
        intro _
        rfl
    | cons c cs ih =>
        intro hcs
        obtain ⟨hc, hcs⟩ := List.forall_mem_cons.mp hcs
        have hstep : step (.text '"') c = .ok ([], .text '"') := by
          simp only [List.mem_cons, List.not_mem_nil, or_false, not_or] at hc
          rw [step, if_neg hc.1, if_neg hc.2.1, if_neg (not_or.mpr hc.2.2)]
        rw [run, hstep]
        show (run (.text '"') cs >>= fun x => Except.ok ([] ++ x.1, x.2)) = _
        rw [ih hcs]
        rfl
  exact key _ h

theorem inside_message : Inside "message" :=
  inside_of_plain (by simp)

/-- The place behind some characters. -/
def placeBehind (cs : List Char) : Option Place :=
  (run .between cs).toOption.map (·.2)

/-- What is inserted between quotation marks changes no token. -/
theorem tokens_inserted {as cs : List Char} (has : placeBehind as = some (.text '"'))
    (hcs : run (.text '"') cs = .ok ([], .text '"')) (bs : List Char) :
    tokens (as ++ (cs ++ bs)) = tokens (as ++ bs) := by
  obtain ⟨ts, hrun⟩ : ∃ ts, run .between as = .ok (ts, .text '"') := by
    rw [placeBehind] at has
    cases hrun : run .between as with
    | error e =>
        rw [hrun] at has
        exact nomatch has
    | ok x =>
        rw [hrun] at has
        exact ⟨x.1, congrArg (fun place => Except.ok (x.1, place)) (Option.some.inj has)⟩
  have hinserted : run (.text '"') (cs ++ bs) = run (.text '"') bs := by
    rw [run_append hcs]
    cases run (.text '"') bs <;> rfl
  rw [tokens, tokens, run_append hrun, run_append hrun, hinserted]

theorem toList_unlines (ls : List String) :
    (Text.unlines ls).toList = ls.flatMap fun l => l.toList ++ ['\n'] := by
  induction ls with
  | nil => rfl
  | cons l ls ih =>
      show (l ++ "\n" ++ Text.unlines ls).toList = _
      rw [List.flatMap_cons, String.toList_append, String.toList_append, ih]
      rfl

/-- **A text that can stand between quotation marks can be inserted there:** the script has the same
functions as with no text. -/
theorem defines_inserted (before : List String) (left field right : String) (after : List String)
    {function : String}
    (hleft : placeBehind ((Text.unlines before).toList ++ left.toList) = some (.text '"'))
    (hfield : Inside field) :
    defines (Text.unlines (before ++ (left ++ field ++ right) :: after)) function
      = defines (Text.unlines (before ++ (left ++ "" ++ right) :: after)) function := by
  have hsplit : ∀ s, (Text.unlines (before ++ (left ++ s ++ right) :: after)).toList
      = ((Text.unlines before).toList ++ left.toList)
        ++ (s.toList ++ (right.toList ++ '\n' :: (Text.unlines after).toList)) := by
    intro s
    simp [toList_unlines, List.append_assoc]
  rw [defines, defines, hsplit, hsplit, functions, functions, tokens_inserted hleft hfield]
  rfl

/-! ## The scripts of filters -/

/-- The characters of a text that is written out. -/
theorem toList_of_eq {s : String} {cs : List Char} (h : s = String.ofList cs) : s.toList = cs := by
  rw [h, String.toList_ofList]

theorem merge_defines : defines Script.merge "parser_merge_record" = true := by
  rw [defines, Script.merge, toList_unlines]
  simp only [List.flatMap_cons, List.flatMap_nil]
  repeat rw [toList_of_eq rfl]
  decide +kernel

theorem stripNewline_defines : defines Script.stripNewline "strip_newline" = true := by
  rw [defines, Script.stripNewline, toList_unlines]
  simp only [List.flatMap_cons, List.flatMap_nil]
  repeat rw [toList_of_eq rfl]
  decide +kernel

theorem addLogName_defines : defines Script.addLogName "add_log_name" = true := by
  rw [defines, Script.addLogName, toList_unlines]
  simp only [List.flatMap_cons, List.flatMap_nil]
  repeat rw [toList_of_eq rfl]
  decide +kernel

/-- **The script that puts fields aside defines its function** if the field to parse can stand
between quotation marks as it is. -/
theorem nest_defines {field : String} (h : Inside field) :
    defines (Script.nest field) "parser_nest" = true := by
  have hempty : defines (Script.nest "") "parser_nest" = true := by
    rw [defines, Script.nest, toList_unlines]
    simp only [List.flatMap_cons, List.flatMap_nil, String.toList_append]
    repeat rw [toList_of_eq rfl]
    decide +kernel
  refine (defines_inserted [_, _, _, _] _ field _ _ ?_ h).trans hempty
  rw [toList_unlines]
  simp only [List.flatMap_cons, List.flatMap_nil]
  repeat rw [toList_of_eq rfl]
  decide +kernel

end Telemetry.Lua
