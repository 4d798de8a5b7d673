import Telemetry.Number.Magnitude
import Telemetry.Toml.Value

/-!
# TOML scalars

Texts in their four forms, truth values, numbers and moments. Every function reads from the front of
a list of characters and gives what remains.
-/

namespace Telemetry.Toml

/-- A space or a tab. -/
def isSpacing (c : Char) : Bool :=
  c = ' ' || c = '\t'

/-- A character that may stand for itself in a line of a text or of a comment. -/
def isPlain (c : Char) : Bool :=
  c = '\t' || (0x20 ≤ c.toNat && c.toNat ≠ 0x7F)

/-! ## Texts -/

/-- The value of a hexadecimal digit. -/
def hexDigit? (c : Char) : Option Nat :=
  if '0' ≤ c ∧ c ≤ '9' then some (c.toNat - '0'.toNat)
  else if 'a' ≤ c ∧ c ≤ 'f' then some (c.toNat - 'a'.toNat + 10)
  else if 'A' ≤ c ∧ c ≤ 'F' then some (c.toNat - 'A'.toNat + 10)
  else none

/-- The character with the given number in hexadecimal digits. -/
def charOfHex? (digits : List Char) : Option Char := do
  let n ← digits.foldlM (fun n c => (hexDigit? c).map (16 * n + ·)) 0
  if n.isValidChar then some (Char.ofNat n) else none

/-- The character that a letter after a backslash stands for. -/
def escaped? (c : Char) : Option Char :=
  match c with
  | 'b' => some (Char.ofNat 8)
  | 't' => some '\t'
  | 'n' => some '\n'
  | 'f' => some (Char.ofNat 12)
  | 'r' => some '\r'
  | 'e' => some (Char.ofNat 27)
  | '"' => some '"'
  | '\\' => some '\\'
  | _ => none

/-- Puts a character in front of a text that was read, if both were read. -/
def withFront (c : Option Char) (rest : Option (List Char × List Char)) :
    Option (List Char × List Char) := do
  let (cs, after) ← rest
  return ((← c) :: cs, after)

/-- Reads up to the double quote that ends a text of one line. -/
def quotedText? : List Char → Option (List Char × List Char)
  | [] => none
  | '"' :: cs => some ([], cs)
  | '\\' :: 'x' :: a :: b :: cs => withFront (charOfHex? [a, b]) (quotedText? cs)
  | '\\' :: 'u' :: a :: b :: c :: d :: cs =>
    withFront (charOfHex? [a, b, c, d]) (quotedText? cs)
  | '\\' :: 'U' :: a :: b :: c :: d :: e :: f :: g :: h :: cs =>
    withFront (charOfHex? [a, b, c, d, e, f, g, h]) (quotedText? cs)
  | '\\' :: c :: cs => withFront (escaped? c) (quotedText? cs)
  | c :: cs => withFront (if isPlain c then some c else none) (quotedText? cs)

/-- Reads up to the single quote that ends a text of one line. -/
def literalText? : List Char → Option (List Char × List Char)
  | [] => none
  | '\'' :: cs => some ([], cs)
  | c :: cs => withFront (if isPlain c then some c else none) (literalText? cs)

/-- Whether only spacing is left on a line. -/
def endsLine (cs : List Char) : Bool :=
  (cs.dropWhile isSpacing).head? = some '\n'

/-- Reads up to the three double quotes that end a text of many lines; up to two more quotes in
front of them belong to the text. A backslash at the end of a line removes all spacing and line
breaks after it, which is done while `skipping`. -/
def longQuotedText? : Bool → List Char → Option (List Char × List Char)
  | _, [] => none
  | _, '"' :: '"' :: '"' :: '"' :: '"' :: cs => some (['"', '"'], cs)
  | _, '"' :: '"' :: '"' :: '"' :: cs => some (['"'], cs)
  | _, '"' :: '"' :: '"' :: cs => some ([], cs)
  | _, '\\' :: 'x' :: a :: b :: cs => withFront (charOfHex? [a, b]) (longQuotedText? false cs)
  | _, '\\' :: 'u' :: a :: b :: c :: d :: cs =>
    withFront (charOfHex? [a, b, c, d]) (longQuotedText? false cs)
  | _, '\\' :: 'U' :: a :: b :: c :: d :: e :: f :: g :: h :: cs =>
    withFront (charOfHex? [a, b, c, d, e, f, g, h]) (longQuotedText? false cs)
  | _, '\\' :: c :: cs =>
    if endsLine (c :: cs) then longQuotedText? true cs
    else withFront (escaped? c) (longQuotedText? false cs)
  | skipping, c :: cs =>
    if skipping && (isSpacing c || c = '\n') then longQuotedText? true cs
    else withFront (if isPlain c || c = '\n' then some c else none) (longQuotedText? false cs)

/-- Reads up to the three single quotes that end a text of many lines; up to two more quotes in
front of them belong to the text. -/
def longLiteralText? : List Char → Option (List Char × List Char)
  | [] => none
  | '\'' :: '\'' :: '\'' :: '\'' :: '\'' :: cs => some (['\'', '\''], cs)
  | '\'' :: '\'' :: '\'' :: '\'' :: cs => some (['\''], cs)
  | '\'' :: '\'' :: '\'' :: cs => some ([], cs)
  | c :: cs => withFront (if isPlain c || c = '\n' then some c else none) (longLiteralText? cs)

/-- Removes a line break in front. -/
def dropBreak : List Char → List Char
  | '\n' :: cs => cs
  | cs => cs

/-- Reads a text in any of the four forms. -/
def text? : List Char → Option (List Char × List Char)
  | '"' :: '"' :: '"' :: cs => longQuotedText? false (dropBreak cs)
  | '\'' :: '\'' :: '\'' :: cs => longLiteralText? (dropBreak cs)
  | '"' :: cs => quotedText? cs
  | '\'' :: cs => literalText? cs
  | _ => none

/-! ## Numbers -/

/-- Digits of a kind, with underscores between digits only. -/
def isRun (isDigit : Char → Bool) : List Char → Bool
  | [] => false
  | [c] => isDigit c
  | c :: '_' :: cs => isDigit c && isRun isDigit cs
  | c :: cs => isDigit c && isRun isDigit cs

/-- The number that digits write, apart from underscores. -/
def runValue (base : Nat) (cs : List Char) : Nat :=
  (cs.filterMap hexDigit?).foldl (fun n d => base * n + d) 0

/-- Decimal digits without needless zeros in front. -/
def isWhole (cs : List Char) : Bool :=
  isRun Char.isDigit cs && (cs.head? ≠ some '0' || cs.length = 1)

/-- A digit in one of the bases below ten, or in base sixteen. -/
def isDigitOf (base : Nat) (c : Char) : Bool :=
  (hexDigit? c).any (· < base)

/-- Splits off a sign; the first part says whether the number is negative. -/
def unsigned : List Char → Bool × List Char
  | '+' :: cs => (false, cs)
  | '-' :: cs => (true, cs)
  | cs => (false, cs)

/-- A whole number of at most 128 bits. -/
def isInteger (cs : List Char) : Bool :=
  let fits (base : Nat) (ds : List Char) : Bool :=
    isRun (isDigitOf base) ds && runValue base ds < Nat.pow 2 128
  match cs with
  | '0' :: 'x' :: ds => fits 16 ds
  | '0' :: 'o' :: ds => fits 8 ds
  | '0' :: 'b' :: ds => fits 2 ds
  | cs =>
    let (isNegative, ds) := unsigned cs
    isWhole ds && runValue 10 ds < if isNegative then Nat.pow 2 127 + 1 else Nat.pow 2 128

/-- Reads the exponent of a number, if there is one, to the end. -/
def exponent? : List Char → Option Int
  | [] => some 0
  | e :: cs =>
    let (isNegative, ds) := unsigned cs
    if (e = 'e' || e = 'E') && isRun Char.isDigit ds then
      some (if isNegative then -(runValue 10 ds : Int) else runValue 10 ds)
    else none

/-- A number with a fraction or an exponent that is not too large for a binary magnitude. -/
def isFloat (cs : List Char) : Bool :=
  let cs := (unsigned cs).2
  let isPart (c : Char) : Bool := c.isDigit || c = '_'
  let whole := cs.takeWhile isPart
  let isFinite (fraction rest : List Char) : Bool :=
    match exponent? rest with
    | some e =>
      let digits := (fraction.filter Char.isDigit).length
      Magnitude.ofDecimal (runValue 10 (whole ++ fraction)) (e - digits) ≠ .infinite
    | none => false
  cs = ['i', 'n', 'f'] || cs = ['n', 'a', 'n'] || isWhole whole && match cs.dropWhile isPart with
    | [] => false
    | '.' :: rest =>
      isRun Char.isDigit (rest.takeWhile isPart)
        && isFinite (rest.takeWhile isPart) (rest.dropWhile isPart)
    | rest => isFinite [] rest

/-! ## Moments -/

/-- The number that two digits write. -/
def twoDigits? (a b : Char) : Option Nat :=
  if a.isDigit && b.isDigit then some (runValue 10 [a, b]) else none

/-- The number of days of a month. -/
def daysOf (year month : Nat) : Nat :=
  if month = 2 then
    if year % 4 = 0 ∧ (year % 100 ≠ 0 ∨ year % 400 = 0) then 29 else 28
  else if month = 4 ∨ month = 6 ∨ month = 9 ∨ month = 11 then 30
  else 31

/-- Reads a date. -/
def date? : List Char → Option (List Char)
  | a :: b :: c :: d :: '-' :: e :: f :: '-' :: g :: h :: cs => do
    let year := 100 * (← twoDigits? a b) + (← twoDigits? c d)
    let month ← twoDigits? e f
    let day ← twoDigits? g h
    if 1 ≤ month ∧ month ≤ 12 ∧ 1 ≤ day ∧ day ≤ daysOf year month then some cs else none
  | _ => none

/-- Reads hours and minutes. -/
def minutes? : List Char → Option (List Char)
  | a :: b :: ':' :: c :: d :: cs => do
    if (← twoDigits? a b) < 24 ∧ (← twoDigits? c d) < 60 then some cs else none
  | _ => none

/-- Reads a fraction of a second, if there is one. -/
def fraction? : List Char → Option (List Char)
  | '.' :: cs => if (cs.takeWhile Char.isDigit).isEmpty then none else cs.dropWhile Char.isDigit
  | cs => some cs

/-- Reads a time of day, whose seconds may be missing. -/
def time? (cs : List Char) : Option (List Char) := do
  match ← minutes? cs with
  | ':' :: a :: b :: cs => if (← twoDigits? a b) ≤ 60 then fraction? cs else none
  | cs => some cs

/-- The end of a moment: what its distance from universal time is, if that is said. -/
def isOffset : List Char → Bool
  | [] => true
  | ['Z'] => true
  | ['z'] => true
  | '+' :: cs => minutes? cs = some []
  | '-' :: cs => minutes? cs = some []
  | _ => false

/-- A date, a time of day or both. -/
def isMoment (cs : List Char) : Bool :=
  match date? cs with
  | some [] => true
  | some (c :: rest) => (c = 'T' || c = 't' || c = ' ') && (time? rest).any isOffset
  | none => time? cs = some []

/-! ## Words -/

/-- A character of a scalar without quotes. -/
def isWordChar (c : Char) : Bool :=
  c.isAlphanum || c = '+' || c = '-' || c = '.' || c = '_' || c = ':'

/-- The value of a scalar without quotes. -/
def wordValue? (cs : List Char) : Option Value :=
  if cs = ['t', 'r', 'u', 'e'] then some (.flag true)
  else if cs = ['f', 'a', 'l', 's', 'e'] then some (.flag false)
  else if isInteger cs || isFloat cs then some .number
  else if isMoment cs then some .moment
  else none

/-- Splits off a scalar without quotes. A date may be followed by a space and a time. -/
def splitWord (cs : List Char) : List Char × List Char :=
  let word := cs.takeWhile isWordChar
  let rest := cs.dropWhile isWordChar
  match rest with
  | ' ' :: c :: more =>
    if date? word = some [] && c.isDigit then
      (word ++ ' ' :: (c :: more).takeWhile isWordChar, (c :: more).dropWhile isWordChar)
    else (word, rest)
  | _ => (word, rest)

/-- Reads a scalar. -/
def scalar? (cs : List Char) : Option (Value × List Char) :=
  match cs with
  | '"' :: _ => (text? cs).map fun (s, rest) => (.text (String.ofList s), rest)
  | '\'' :: _ => (text? cs).map fun (s, rest) => (.text (String.ofList s), rest)
  | _ =>
    let (word, rest) := splitWord cs
    (wordValue? word).map fun v => (v, rest)

end Telemetry.Toml
