import Telemetry.Number.Magnitude
import Telemetry.Interval

/-!
# Plain scalars

What an unquoted scalar means where values have types: an empty text and the spellings of null mean
nothing, and a text may be a boolean, a whole number in base 2, 8, 10 or 16, or a number with a
fraction or an exponent. Everything else is text. The writer quotes a text that would not be read
back as text.
-/

namespace Telemetry.Yaml

/-- The meaning of a plain scalar. -/
inductive Plain where
  | null
  | bool (b : Bool)
  /-- A whole number of at most 128 bits. -/
  | int (n : Int)
  /-- Any other number, infinities and not-a-number included. -/
  | real
  | text
  deriving DecidableEq, Repr

/-- The spellings of null. -/
def isNull (s : String) : Bool :=
  s = "null" || s = "Null" || s = "NULL" || s = "~"

/-- The spellings of the booleans. -/
def bool? (s : String) : Option Bool :=
  if s = "true" || s = "True" || s = "TRUE" then some true
  else if s = "false" || s = "False" || s = "FALSE" then some false
  else none

/-- The value of a digit in bases up to sixteen. -/
def digit? (c : Char) : Option Nat :=
  if '0' ≤ c && c ≤ '9' then some (c.toNat - '0'.toNat)
  else if 'a' ≤ c && c ≤ 'f' then some (c.toNat - 'a'.toNat + 10)
  else if 'A' ≤ c && c ≤ 'F' then some (c.toNat - 'A'.toNat + 10)
  else none

/-- Reads digits of a base after the number `n`. -/
def digitsFrom? (base n : Nat) : List Char → Option Nat
  | [] => some n
  | c :: cs =>
    match digit? c with
    | some d => if d < base then digitsFrom? base (base * n + d) cs else none
    | none => none

/-- Reads one or more digits of a base. -/
def digits? (base : Nat) (cs : List Char) : Option Nat :=
  if cs.isEmpty then none else digitsFrom? base 0 cs

/-- Reads one or more digits of a base as a number below a limit. -/
def boundedDigits? (base limit : Nat) (cs : List Char) : Option Nat :=
  (digits? base cs).filter (· < limit)

/-- The base of a number and its digits, from how it begins. -/
def baseOf? : List Char → Option (Nat × List Char)
  | '0' :: 'x' :: cs => some (16, cs)
  | '0' :: 'o' :: cs => some (8, cs)
  | '0' :: 'b' :: cs => some (2, cs)
  | _ => none

/-- Whether a list of characters begins with a sign. -/
def isSigned : List Char → Bool
  | '+' :: _ => true
  | '-' :: _ => true
  | _ => false

/-- Removes one plus sign. -/
def dropPlus : List Char → List Char
  | '+' :: cs => cs
  | cs => cs

/-- Several digits of which the first is a zero, after a sign or none: not a number. -/
def hasLeadingZero (cs : List Char) : Bool :=
  match if isSigned cs then cs.drop 1 else cs with
  | '0' :: d :: ds => (d :: ds).all Char.isDigit
  | _ => false

/-- Reads a whole number without a minus sign. -/
def unsigned? (cs : List Char) : Option Int :=
  let limit := Nat.pow 2 128
  let body := dropPlus cs
  let based := (baseOf? body).bind fun (base, ds) => boundedDigits? base limit ds
  match based with
  | some n => some n
  | none =>
    if hasLeadingZero cs then none
    else (boundedDigits? 10 limit body).map Int.ofNat

/-- Reads a whole number with a minus sign. -/
def negative? : List Char → Option Int
  | '-' :: cs =>
    let limit := Nat.pow 2 127 + 1
    match (baseOf? cs).bind fun (base, ds) => boundedDigits? base limit ds with
    | some n => some (-(n : Int))
    | none =>
      if hasLeadingZero cs then none
      else (boundedDigits? 10 limit cs).map fun n => -(n : Int)
  | _ => none

/-- Reads a whole number. -/
def int? (cs : List Char) : Option Int :=
  (unsigned? cs).or (negative? cs)

/-- Reads an exponent: a sign or none, and digits. -/
def exponent? (cs : List Char) : Option Int :=
  match cs with
  | '-' :: ds => (digits? 10 ds).map fun n => -(n : Int)
  | _ => (digits? 10 (dropPlus cs)).map Int.ofNat

/-- Reads a decimal with an optional point and an optional exponent as a magnitude. -/
def decimal? (cs : List Char) : Option Magnitude :=
  let isE (c : Char) : Bool := c = 'e' || c = 'E'
  let mantissa := cs.takeWhile (fun c => !isE c)
  let rest := cs.dropWhile (fun c => !isE c)
  let whole := mantissa.takeWhile Char.isDigit
  let fraction := (mantissa.dropWhile Char.isDigit).drop 1
  let pointed := (mantissa.dropWhile Char.isDigit).take 1
  if (pointed = [] || pointed = ['.']) && fraction.all Char.isDigit
      && !(whole.isEmpty && fraction.isEmpty) then
    let digits := Interval.digitsValue (whole ++ fraction)
    match rest with
    | [] => some (.ofDecimal digits (-(fraction.length : Int)))
    | _ :: es => (exponent? es).map fun e => .ofDecimal digits (e - (fraction.length : Int))
  else none

/-- Whether a plain scalar is a number with a fraction or an exponent, or a special number. -/
def isReal (cs : List Char) : Bool :=
  let body := dropPlus cs
  if body.length < cs.length && isSigned body then false
  else if [".inf", ".Inf", ".INF"].contains (String.ofList body) then true
  else if ["-.inf", "-.Inf", "-.INF", ".nan", ".NaN", ".NAN"].contains (String.ofList cs) then true
  else
    let magnitude := match body with
      | '-' :: ds => decimal? ds
      | ds => decimal? ds
    match magnitude with
    | some (.finite _) => true
    | _ => false

/-- The meaning of a plain scalar. -/
def plain (s : String) : Plain :=
  if s = "" || isNull s then .null
  else match bool? s with
    | some b => .bool b
    | none =>
      let cs := s.toList
      match int? cs with
      | some n => .int n
      | none => if !hasLeadingZero cs && isReal cs then .real else .text

/-- Whether a plain scalar with the letters of a text is read as that text. -/
def isText (s : String) : Bool :=
  plain s = .text && !hasLeadingZero s.toList

end Telemetry.Yaml
