import Telemetry.Number.Magnitude
import Telemetry.Text.Replace

/-!
# Shortest decimals

`Magnitude.shortest` finds the decimal with the fewest digits that reads back as a magnitude, and
of those the nearest to it. `Decimal.positional` and `Decimal.scientific` write a decimal without
and with an exponent.
-/

namespace Telemetry

/-- The number `digits` times a power of ten. -/
structure Decimal where
  digits : Nat
  exponent : Int
  deriving DecidableEq, Repr

namespace Magnitude

/-- The numbers that read back as a magnitude, in quarters of a unit: both ends, and whether the
ends belong to them. -/
def readBack (units : Nat) : Nat × Nat × Bool :=
  let grid := Nat.pow 2 (gridExponent units)
  let significand := units / grid
  let below := if significand = Nat.pow 2 (precision - 1) && 1 < grid then grid else 2 * grid
  (4 * units - below, 4 * units + 2 * grid, significand % 2 = 0)

/-- Whether a fraction of units reads back as a magnitude. -/
def readsBack (units num den : Nat) : Bool :=
  match readBack units with
  | (lo, hi, true) => lo * den ≤ 4 * num && 4 * num ≤ hi * den
  | (lo, hi, false) => lo * den < 4 * num && 4 * num < hi * den

/-- The multiple of a power of ten that is nearest to a magnitude among the two next to it that read
back. -/
def onGrid? (units : Nat) (exponent : Int) : Option Nat :=
  -- the value in steps of the grid is `num / den`
  let num := units * Nat.pow 10 (-exponent).toNat
  let den := Nat.pow 2 scale * Nat.pow 10 exponent.toNat
  let stepNum := Nat.pow 10 exponent.toNat * Nat.pow 2 scale
  let stepDen := Nat.pow 10 (-exponent).toNat
  let reads (n : Nat) : Bool := readsBack units (n * stepNum) stepDen
  let lower := num / den
  let nearest := roundToEven num den
  let other := if nearest = lower then lower + 1 else lower
  if nearest ≠ 0 && reads nearest then some nearest
  else if other ≠ 0 && reads other then some other
  else none

/-- The least exponent `e` with the value below ten to the `e`, found from a first guess that is not
above it. -/
def decimalSize (units : Nat) : Nat → Int → Int
  | 0, e => e
  | fuel + 1, e =>
    if units * Nat.pow 10 (-e).toNat < Nat.pow 2 scale * Nat.pow 10 e.toNat then e
    else decimalSize units fuel (e + 1)

/-- Removes trailing zeros from the digits of a decimal. -/
def stripZeros : Nat → Decimal → Decimal
  | 0, d => d
  | fuel + 1, d =>
    if d.digits ≠ 0 && d.digits % 10 = 0 then stripZeros fuel ⟨d.digits / 10, d.exponent + 1⟩
    else d

/-- The decimal of the fewest digits, from `count` on, that reads back. -/
def searchShortest (units : Nat) (size : Int) : Nat → Nat → Decimal
  | 0, _ => ⟨units, -(scale : Int)⟩
  | fuel + 1, count =>
    let exponent := size - count
    match onGrid? units exponent with
    | some digits => stripZeros 20 ⟨digits, exponent⟩
    | none => searchShortest units size fuel (count + 1)

/-- The shortest decimal that reads back as a finite magnitude. -/
def shortest (units : Nat) : Decimal :=
  if units = 0 then ⟨0, 0⟩
  else
    -- a number of `b` binary digits has at least `(b - 1) * 0.3` decimal digits
    let guess : Int := ((Nat.log2 units : Int) - (scale : Int)) * 30103 / 100000 - 1
    searchShortest units (decimalSize units 8 guess) 17 1

end Magnitude

namespace Decimal

/-- The digits of a decimal. -/
def text (d : Decimal) : List Char :=
  Nat.toDigits 10 d.digits

/-- The number of digits before the point, which is negative for a number with zeros after it. -/
def pointPosition (d : Decimal) : Int :=
  (d.text.length : Int) + d.exponent

/-- A decimal without an exponent; a whole number has no point. -/
def positional (d : Decimal) : String :=
  let ds := d.text
  let point := d.pointPosition
  if 0 ≤ d.exponent then String.ofList (ds ++ List.replicate d.exponent.toNat '0')
  else if 0 < point then
    String.ofList (ds.take point.toNat ++ '.' :: ds.drop point.toNat)
  else String.ofList ('0' :: '.' :: List.replicate (-point).toNat '0' ++ ds)

/-- A decimal with an exponent and one digit before the point. -/
def scientific (d : Decimal) : String :=
  let head := d.text.take 1
  let tail := d.text.drop 1
  let mantissa := if tail.isEmpty then head else head ++ '.' :: tail
  String.ofList mantissa ++ "e" ++ toString (d.pointPosition - 1)

/-- A decimal that shows that it is not a whole number: with a point in any case, and with an
exponent from ten to the sixteenth on and below a hundred-thousandth. -/
def floating (d : Decimal) : String :=
  let point := d.pointPosition
  if d.digits = 0 then "0.0"
  else if 0 ≤ d.exponent && point ≤ 16 then d.positional ++ ".0"
  else if d.exponent < 0 && -5 < point && point ≤ 16 then d.positional
  else d.scientific

end Decimal

end Telemetry
