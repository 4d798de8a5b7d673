import Telemetry.Yaml.Token

/-!
# Elements

`Element.ofTokens?` puts the tokens of a document together: scalars, sequences, mappings, and
aliases for elements that bear an anchor. Where a sequence or a mapping has a place for an element
but none stands there, there is an empty scalar. A sequence that is the value of a key need not be
indented more than the key; such a sequence has no tokens for its beginning and its end.
-/

namespace Telemetry.Yaml

/-- A part of a document, in which aliases are not yet resolved. Anchors are numbered. -/
inductive Element where
  | alias (target : Nat)
  | scalar (anchor : Option Nat) (tag : Option String) (isPlain : Bool) (text : String)
  | sequence (anchor : Option Nat) (tag : Option String) (items : List Element)
  | mapping (anchor : Option Nat) (tag : Option String) (entries : List (Element × Element))

/-- What the names of anchors stand for so far. A new anchor gets the number of names that were in
use before, also if its own name is one of them. -/
abbrev Anchors := List (String × Nat)

/-- Gives an anchor its number. -/
def Anchors.add (a : Anchors) (name : String) : Anchors :=
  (name, a.length) :: a.filter (·.1 ≠ name)

/-- The handles of tags and what they stand for. -/
abbrev Handles := List (String × String)

/-- The handles that need no definition. -/
def Handles.default : Handles := [("!", "!"), ("!!", "tag:yaml.org,2002:")]

/-- What may stand in front of an element: an anchor and a tag. -/
structure Properties where
  anchor : Option String := none
  tag : Option String := none

namespace Element

/-- A scalar of which nothing is written. -/
def empty : Element := .scalar none none true ""

/-- The full form of a tag. -/
def fullTag? (handles : Handles) (handle rest : String) : Option String :=
  if handle = "" then some rest else (handles.lookup handle).map (· ++ rest)

/-- Reads the properties of an element: an anchor and a tag in any order. -/
def properties? (handles : Handles) : List Token → Option (Properties × List Token)
  | .anchor name :: .tag handle rest :: ts => do
    return (⟨some name, some (← fullTag? handles handle rest)⟩, ts)
  | .tag handle rest :: .anchor name :: ts => do
    return (⟨some name, some (← fullTag? handles handle rest)⟩, ts)
  | .anchor name :: ts => some (⟨some name, none⟩, ts)
  | .tag handle rest :: ts => do return (⟨none, some (← fullTag? handles handle rest)⟩, ts)
  | ts => some ({}, ts)

/-- Where a position for an element of a block sequence is left empty. -/
def endsBlockItem : Token → Bool
  | .blockEntry => true
  | .blockEnd => true
  | _ => false

/-- Where a position for a key or a value of a block mapping is left empty. -/
def endsBlockPart : Token → Bool
  | .key => true
  | .value => true
  | .blockEnd => true
  | _ => false

/-- Where a position in a sequence that is not indented is left empty. -/
def endsFlatItem (t : Token) : Bool :=
  endsBlockPart t || t = .blockEntry

/-- Where a position for a value of a flow mapping is left empty. -/
def endsFlowValue : Token → Bool
  | .flowEntry => true
  | .flowMappingEnd => true
  | _ => false

/-- Where a position for a key of a flow mapping is left empty. -/
def endsFlowKey (t : Token) : Bool :=
  endsFlowValue t || t = .value

/-- Where a position for a value of a single pair in a flow sequence is left empty. -/
def endsPairValue : Token → Bool
  | .flowEntry => true
  | .flowSequenceEnd => true
  | _ => false

/-- Where a position for a key of a single pair in a flow sequence is left empty. -/
def endsPairKey (t : Token) : Bool :=
  endsPairValue t || t = .value

/-- Goes on past the comma between two entries of a flow collection; there is none before the
first. -/
def pastComma? (isFirst : Bool) : List Token → Option (List Token)
  | .flowEntry :: ts => if isFirst then some (.flowEntry :: ts) else some ts
  | ts => if isFirst then some ts else none

mutual

/-- Reads an element. Block collections may stand only where `inBlock` holds, a sequence without
indentation only where `flatAllowed` does. -/
def element? (handles : Handles) :
    Nat → (inBlock flatAllowed : Bool) → Anchors → List Token →
      Option (Element × Anchors × List Token)
  | 0, _, _, _, _ => none
  | _ + 1, _, _, anchors, .alias name :: ts => do
    return (.alias (← anchors.lookup name), anchors, ts)
  | fuel + 1, inBlock, flatAllowed, anchors, ts => do
    let (p, ts) ← properties? handles ts
    let anchor := p.anchor.map fun _ => anchors.length
    let anchors := match p.anchor with
      | some name => anchors.add name
      | none => anchors
    match ts with
    | .scalar isPlain text :: ts =>
      let tag := if p.tag = some "!" then none else p.tag
      return (.scalar anchor tag isPlain text, anchors, ts)
    | .flowSequence :: ts => do
      let (items, anchors, ts) ← flowItems? handles fuel true anchors ts
      return (.sequence anchor p.tag items, anchors, ts)
    | .flowMapping :: ts => do
      let (entries, anchors, ts) ← flowEntries? handles fuel true anchors ts
      return (.mapping anchor p.tag entries, anchors, ts)
    | t :: rest =>
      if flatAllowed && t = .blockEntry then do
        let (items, anchors, ts) ← flatItems? handles fuel anchors (t :: rest)
        return (.sequence anchor p.tag items, anchors, ts)
      else if inBlock && t = .blockSequence then do
        let (items, anchors, ts) ← blockItems? handles fuel anchors rest
        return (.sequence anchor p.tag items, anchors, ts)
      else if inBlock && t = .blockMapping then do
        let (entries, anchors, ts) ← blockEntries? handles fuel anchors rest
        return (.mapping anchor p.tag entries, anchors, ts)
      else if p.anchor.isSome || p.tag.isSome then
        return (.scalar anchor p.tag true "", anchors, t :: rest)
      else none
    | [] =>
      if p.anchor.isSome || p.tag.isSome then
        return (.scalar anchor p.tag true "", anchors, [])
      else none

/-- Reads an element, or an empty scalar before a token that leaves the position empty. -/
def elementUnless? (handles : Handles) :
    Nat → (Token → Bool) → (inBlock flatAllowed : Bool) → Anchors → List Token →
      Option (Element × Anchors × List Token)
  | 0, _, _, _, _, _ => none
  | fuel + 1, ends, inBlock, flatAllowed, anchors, ts =>
    if ts.head?.any ends then some (empty, anchors, ts)
    else element? handles fuel inBlock flatAllowed anchors ts

/-- Reads the entries of a block sequence. -/
def blockItems? (handles : Handles) :
    Nat → Anchors → List Token → Option (List Element × Anchors × List Token)
  | fuel + 1, anchors, .blockEntry :: ts => do
    let (item, anchors, ts) ← elementUnless? handles fuel endsBlockItem true false anchors ts
    let (items, anchors, ts) ← blockItems? handles fuel anchors ts
    return (item :: items, anchors, ts)
  | _ + 1, anchors, .blockEnd :: ts => some ([], anchors, ts)
  | _, _, _ => none

/-- Reads the entries of a block sequence that is not indented. -/
def flatItems? (handles : Handles) :
    Nat → Anchors → List Token → Option (List Element × Anchors × List Token)
  | 0, _, _ => none
  | fuel + 1, anchors, .blockEntry :: ts => do
    let (item, anchors, ts) ← elementUnless? handles fuel endsFlatItem true false anchors ts
    let (items, anchors, ts) ← flatItems? handles fuel anchors ts
    return (item :: items, anchors, ts)
  | _ + 1, anchors, ts => some ([], anchors, ts)

/-- Reads the entries of a block mapping. -/
def blockEntries? (handles : Handles) :
    Nat → Anchors → List Token → Option (List (Element × Element) × Anchors × List Token)
  | fuel + 1, anchors, .key :: ts => do
    let (key, anchors, ts) ← elementUnless? handles fuel endsBlockPart true true anchors ts
    let (value, anchors, ts) ← match ts with
      | .value :: ts => elementUnless? handles fuel endsBlockPart true true anchors ts
      | ts => some (empty, anchors, ts)
    let (entries, anchors, ts) ← blockEntries? handles fuel anchors ts
    return ((key, value) :: entries, anchors, ts)
  | _ + 1, anchors, .blockEnd :: ts => some ([], anchors, ts)
  | _, _, _ => none

/-- Reads the entries of a flow mapping. -/
def flowEntries? (handles : Handles) :
    Nat → (isFirst : Bool) → Anchors → List Token →
      Option (List (Element × Element) × Anchors × List Token)
  | 0, _, _, _ => none
  | _ + 1, _, anchors, .flowMappingEnd :: ts => some ([], anchors, ts)
  | fuel + 1, isFirst, anchors, ts => do
    match ← pastComma? isFirst ts with
    | .flowMappingEnd :: ts => return ([], anchors, ts)
    | .key :: ts => do
      let (key, anchors, ts) ← elementUnless? handles fuel endsFlowKey false false anchors ts
      let (value, anchors, ts) ← match ts with
        | .value :: ts => elementUnless? handles fuel endsFlowValue false false anchors ts
        | ts => some (empty, anchors, ts)
      let (entries, anchors, ts) ← flowEntries? handles fuel false anchors ts
      return ((key, value) :: entries, anchors, ts)
    | ts => do
      let (key, anchors, ts) ← element? handles fuel false false anchors ts
      let (entries, anchors, ts) ← flowEntries? handles fuel false anchors ts
      return ((key, empty) :: entries, anchors, ts)

/-- Reads a single pair in a flow sequence. A key that is left empty uses up the token before which
it is left empty. -/
def flowPair? (handles : Handles) :
    Nat → Anchors → List Token → Option (Element × Anchors × List Token)
  | 0, _, _ => none
  | fuel + 1, anchors, ts => do
    let (key, anchors, ts) ←
      if ts.head?.any endsPairKey then some (empty, anchors, ts.drop 1)
      else element? handles fuel false false anchors ts
    let (value, anchors, ts) ← match ts with
      | .value :: ts => elementUnless? handles fuel endsPairValue false false anchors ts
      | ts => some (empty, anchors, ts)
    return (.mapping none none [(key, value)], anchors, ts)

/-- Reads the entries of a flow sequence. -/
def flowItems? (handles : Handles) :
    Nat → (isFirst : Bool) → Anchors → List Token → Option (List Element × Anchors × List Token)
  | 0, _, _, _ => none
  | _ + 1, _, anchors, .flowSequenceEnd :: ts => some ([], anchors, ts)
  | fuel + 1, isFirst, anchors, ts => do
    match ← pastComma? isFirst ts with
    | .flowSequenceEnd :: ts => return ([], anchors, ts)
    | .key :: ts => do
      let (item, anchors, ts) ← flowPair? handles fuel anchors ts
      let (items, anchors, ts) ← flowItems? handles fuel false anchors ts
      return (item :: items, anchors, ts)
    | ts => do
      let (item, anchors, ts) ← element? handles fuel false false anchors ts
      let (items, anchors, ts) ← flowItems? handles fuel false anchors ts
      return (item :: items, anchors, ts)

end

/-- Reads directives: at most one version, which must be known, and handles for tags. -/
def directives? (version : Bool) (handles : Handles) :
    List Token → Option (Handles × List Token)
  | .version major minor :: ts =>
    if version || major ≠ 1 || (minor ≠ 1 && minor ≠ 2) then none
    else directives? true handles ts
  | .tagHandle handle head :: ts =>
    if handles.any (·.1 = handle) then none
    else directives? version ((handle, head) :: handles) ts
  | ts => some (handles ++ Handles.default, ts)

/-- Where a document that was announced is left empty. -/
def endsDocument : Token → Bool
  | .version _ _ => true
  | .tagHandle _ _ => true
  | .documentStart => true
  | .documentEnd => true
  | _ => false

/-- Whether a token can only stand in front of a document. -/
def announcesDocument : Token → Bool
  | .version _ _ => true
  | .tagHandle _ _ => true
  | .documentStart => true
  | _ => false

/-- Puts the tokens of a text together, which may hold one document at most. -/
def ofTokens? (ts : List Token) : Option (Option Element) := do
  let fuel := 3 * ts.length + 3
  if ts.isEmpty then return none
  let (root, rest) ←
    if ts.head?.any announcesDocument then do
      match ← directives? false [] ts with
      | (handles, .documentStart :: ts) =>
        if ts.isEmpty || ts.head?.any endsDocument then some (empty, ts)
        else do
          let (root, _, rest) ← element? handles fuel true false [] ts
          some (root, rest)
      | _ => none
    else do
      let (root, _, rest) ← element? Handles.default fuel true false [] ts
      some (root, rest)
  if rest.all (· = .documentEnd) then some (some root) else none

end Element

end Telemetry.Yaml
