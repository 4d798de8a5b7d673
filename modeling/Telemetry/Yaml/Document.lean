import Telemetry.Value
import Telemetry.Yaml.Element
import Telemetry.Yaml.Lexer
import Telemetry.Yaml.Plain

/-!
# Documents

A document is a tree of scalars, sequences and mappings. `Document.parse?` reads one from a text,
with all aliases replaced by what they stand for. `Document.value?` gives the scalars of a document
types: by the tag if there is one, and otherwise by what a plain scalar says.
-/

namespace Telemetry.Yaml

/-- A document, or a part of one. -/
inductive Document where
  | scalar (tag : Option String) (isPlain : Bool) (text : String)
  | sequence (tag : Option String) (items : List Document)
  | mapping (tag : Option String) (entries : List (Document × Document))

/-! ## Aliases -/

namespace Element

mutual

/-- The elements of a tree that bear an anchor, by their numbers and in the order in which they
begin. -/
def anchored : Element → List (Nat × Element)
  | .alias _ => []
  | .scalar anchor tag isPlain text =>
    anchor.toList.map fun n => (n, .scalar anchor tag isPlain text)
  | .sequence anchor tag items =>
    (anchor.toList.map fun n => (n, .sequence anchor tag items)) ++ anchoredItems items
  | .mapping anchor tag entries =>
    (anchor.toList.map fun n => (n, .mapping anchor tag entries)) ++ anchoredEntries entries

/-- The elements of several trees that bear an anchor. -/
def anchoredItems : List Element → List (Nat × Element)
  | [] => []
  | e :: es => e.anchored ++ anchoredItems es

/-- The keys and values of a mapping, and what is in them, that bear an anchor. -/
def anchoredEntries : List (Element × Element) → List (Nat × Element)
  | [] => []
  | (k, v) :: es => k.anchored ++ v.anchored ++ anchoredEntries es

end

mutual

/-- The size of an element: one for a scalar or an alias, two and its parts for a collection. -/
def size : Element → Nat
  | .alias _ => 1
  | .scalar _ _ _ _ => 1
  | .sequence _ _ items => 2 + sizeItems items
  | .mapping _ _ entries => 2 + sizeEntries entries

/-- The size of several elements. -/
def sizeItems : List Element → Nat
  | [] => 0
  | e :: es => e.size + sizeItems es

/-- The size of the entries of a mapping. -/
def sizeEntries : List (Element × Element) → Nat
  | [] => 0
  | (k, v) :: es => k.size + v.size + sizeEntries es

end

/-- Applies a function to the members of a list, each time with the budget that the members before
have left. -/
def thread? (f : Nat → α → Option (β × Nat)) : Nat → List α → Option (List β × Nat)
  | budget, [] => some ([], budget)
  | budget, a :: as => do
    let (b, budget) ← f budget a
    let (bs, budget) ← thread? f budget as
    return (b :: bs, budget)

/-- Replaces aliases by what they stand for. The first number bounds the depth, the second is the
number of aliases that may still be replaced, which is returned with the result. -/
def expand? (targets : List (Nat × Element)) :
    Nat → Nat → Element → Option (Document × Nat)
  | 0, _, _ => none
  | _ + 1, 0, .alias _ => none
  | depth + 1, budget + 1, .alias n => (targets.lookup n).bind (expand? targets depth budget)
  | _ + 1, budget, .scalar _ tag isPlain text => some (.scalar tag isPlain text, budget)
  | depth + 1, budget, .sequence _ tag items => do
    let (items, budget) ← thread? (expand? targets depth) budget items
    return (.sequence tag items, budget)
  | depth + 1, budget, .mapping _ tag entries => do
    let (entries, budget) ← thread? (fun budget (k, v) => do
      let (k, budget) ← expand? targets depth budget k
      let (v, budget) ← expand? targets depth budget v
      return ((k, v), budget)) budget entries
    return (.mapping tag entries, budget)

/-- The depth to which a document is read; nothing that fits a configuration is nearly as deep. -/
def maxDepth : Nat := 256

/-- Replaces all aliases of a document; of several elements with one number the last one counts.
Aliases may be replaced a hundred times the size of the document, so that a short text cannot stand
for an enormous one. -/
def toDocument? (e : Element) : Option Document :=
  (expand? e.anchored.reverse maxDepth (100 * e.size) e).map (·.1)

end Element

/-! ## Reading -/

namespace Document

/-- Reads a text that may hold one document; a text that holds none gives nothing. -/
def parse? (s : String) : Option (Option Document) := do
  match ← Element.ofTokens? (← tokens? (← sourceChars? s)) with
  | none => return none
  | some root => return some (← root.toDocument?)

/-! ## Types -/

/-- Whether a tag is of the document's own making; such a tag never stands for a type. -/
def isLocalTag : Option String → Bool
  | some tag => Text.startsWith "!" tag
  | none => false

/-- A whole number of 64 bits with or without a sign. -/
def intValue? (n : Int) : Option Value :=
  if -(Nat.pow 2 63 : Int) ≤ n ∧ n < (Nat.pow 2 64 : Int) then some (.int n) else none

/-- The value of a plain scalar. -/
def plainValue? (text : String) : Option Value :=
  match plain text with
  | .null => some .null
  | .bool b => some (.bool b)
  | .int n => intValue? n
  | .real => some .real
  | .text => some (.text text)

/-- The value of a scalar with a tag. -/
def taggedValue? (tag text : String) : Option Value :=
  match tag with
  | "tag:yaml.org,2002:bool" => (bool? text).map .bool
  | "tag:yaml.org,2002:int" => (int? text.toList).bind intValue?
  | "tag:yaml.org,2002:float" => if isReal text.toList then some .real else none
  | "tag:yaml.org,2002:null" => if isNull text then some .null else none
  | _ => some (.text text)

mutual

/-- Gives the scalars of a document types. -/
def value? : Document → Option Value
  | .scalar tag isPlain text =>
    if isLocalTag tag then none
    else match tag with
      | some tag => taggedValue? tag text
      | none => if isPlain then plainValue? text else some (.text text)
  | .sequence tag items =>
    if isLocalTag tag then none else (valueItems? items).map .list
  | .mapping tag entries =>
    if isLocalTag tag then none else (valueEntries? entries).map .table

/-- Gives the scalars of several documents types. -/
def valueItems? : List Document → Option (List Value)
  | [] => some []
  | d :: ds => do return (← d.value?) :: (← valueItems? ds)

/-- Gives the scalars in the entries of a mapping types. -/
def valueEntries? : List (Document × Document) → Option (List (Value × Value))
  | [] => some []
  | (k, v) :: es => do return (← k.value?, ← v.value?) :: (← valueEntries? es)

end

/-- The text of a scalar, whatever its type. -/
def text? : Document → Option String
  | .scalar _ _ text => some text
  | _ => none

/-- Whether nothing is written for a scalar. -/
def isBlank : Document → Bool
  | .scalar _ isPlain text => isPlain && text = ""
  | _ => false

end Document

end Telemetry.Yaml
