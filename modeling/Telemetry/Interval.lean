import Telemetry.Number.Shortest
import Telemetry.Text.Blank

/-!
# Intervals

Lengths of time as users write them: one or more numbers, each with a unit, such as `1m30s` or
`500ms`. The parts are added up as binary magnitudes in seconds, and the sum is rounded to whole
nanoseconds. A sum of 2⁶⁴ seconds or more has no representation.
-/

namespace Telemetry

/-- A length of time in whole nanoseconds. -/
structure Interval where
  nanos : Nat
  deriving DecidableEq, Repr

/-- Why a text gives no interval. -/
inductive IntervalFault where
  /-- The text is not a sequence of numbers with units. -/
  | malformed
  /-- The sum is 2⁶⁴ seconds or more. -/
  | overflow
  deriving DecidableEq, Repr

namespace Interval

/-- The nanoseconds of a second. -/
def nanosPerSecond : Nat := Nat.pow 10 9

/-- An interval of whole seconds. -/
def ofSeconds (n : Nat) : Interval := ⟨n * nanosPerSecond⟩

/-- The whole seconds of an interval. -/
def seconds (i : Interval) : Nat := i.nanos / nanosPerSecond

/-- The nanoseconds beyond the whole seconds. -/
def subsecNanos (i : Interval) : Nat := i.nanos % nanosPerSecond

/-- A character of a number. -/
def isNumberChar (c : Char) : Bool :=
  c.isDigit || c = '.'

/-- The value of a run of digits. -/
def digitsValue (cs : List Char) : Nat :=
  cs.foldl (fun n c => 10 * n + (c.toNat - '0'.toNat)) 0

/-- Reads a number: digits with at most one point, and at least one digit. -/
def number? (cs : List Char) : Option Magnitude :=
  let whole := cs.takeWhile Char.isDigit
  let fraction := (cs.dropWhile Char.isDigit).drop 1
  if fraction.all Char.isDigit && !(whole.isEmpty && fraction.isEmpty) then
    some (.ofDecimal (digitsValue (whole ++ fraction)) (-(fraction.length : Int)))
  else none

/-- The seconds of one unit. -/
def unit? (cs : List Char) : Option Magnitude :=
  if cs = ['m', 's'] then some (.ofRatio 1 1000)
  else if cs = ['s'] then some (.ofNat 1)
  else if cs = ['m'] then some (.ofNat 60)
  else if cs = ['h'] then some (.ofNat 3600)
  else none

/-- The maximal runs of number characters and of other characters, in order. -/
def runs (cs : List Char) : List (List Char) :=
  cs.splitBy fun a b => isNumberChar a == isNumberChar b

/-- Adds the parts of an interval to a sum, number and unit in turn. -/
def sumParts (total : Magnitude) : List (List Char) → Option Magnitude
  | [] => some total
  | [_] => none
  | number :: unit :: rest =>
    match number? number, unit? unit with
    | some n, some u => sumParts (total.add (n.mul u)) rest
    | _, _ => none

/-- The interval of a number of seconds. -/
def ofMagnitude : Magnitude → Except IntervalFault Interval
  | .infinite => .error .overflow
  | .finite units =>
    if units < Nat.pow 2 (64 + Magnitude.scale) then
      .ok ⟨roundToEven (units * nanosPerSecond) (Nat.pow 2 Magnitude.scale)⟩
    else .error .overflow

/-- Reads an interval; white space around it does not count. -/
def parse (s : String) : Except IntervalFault Interval :=
  match Text.trimChars s.toList with
  | [] => .error .malformed
  | cs =>
    match sumParts (.finite 0) (runs cs) with
    | some total => ofMagnitude total
    | none => .error .malformed

/-- The seconds of an interval as a binary magnitude. -/
def toMagnitude (i : Interval) : Magnitude :=
  (Magnitude.ofNat i.seconds).add (.ofRatio i.subsecNanos nanosPerSecond)

/-- The seconds of an interval in decimals. -/
def decimalSeconds (i : Interval) : String :=
  match i.toMagnitude with
  | .finite units => (Magnitude.shortest units).positional
  | .infinite => "inf"

end Interval

end Telemetry
