/-!
# Binary magnitudes

Non-negative binary floating-point numbers with 53 significant bits, with exact arithmetic and one
rounding. A finite magnitude is a whole number of *units*, the unit being the smallest positive
magnitude, 2⁻¹⁰⁷⁴. Every operation computes an exact fraction of units and rounds it once to the
nearest magnitude, a tie going to the neighbour with an even significand; what is too large is
infinite.
-/

namespace Telemetry

/-- The nearest whole number to a fraction; a tie goes to the even neighbour. -/
def roundToEven (num den : Nat) : Nat :=
  let q := num / den
  let rest := 2 * (num % den)
  if rest < den then q
  else if den < rest then q + 1
  else q + q % 2

/-- A non-negative binary floating-point number. -/
inductive Magnitude where
  /-- The given number of units. -/
  | finite (units : Nat)
  | infinite
  deriving DecidableEq, Repr

namespace Magnitude

/-- The number of binary digits of a significand. -/
def precision : Nat := 53

/-- One is two to this power units. -/
def scale : Nat := 1074

/-- From this number of units on, a magnitude is infinite. -/
def limit : Nat := Nat.pow 2 (1024 + scale)

/-- The power of two whose multiples are the magnitudes near a number of units. -/
def gridExponent (units : Nat) : Nat :=
  if units = 0 then 0 else Nat.log2 units + 1 - precision

/-- The magnitude nearest to a fraction of units. -/
def ofUnits (num den : Nat) : Magnitude :=
  let grid := Nat.pow 2 (gridExponent (num / den))
  let units := roundToEven num (den * grid) * grid
  if units < limit then finite units else infinite

/-- The magnitude nearest to a fraction. -/
def ofRatio (num den : Nat) : Magnitude :=
  ofUnits (num * Nat.pow 2 scale) den

/-- The magnitude nearest to a whole number. -/
def ofNat (n : Nat) : Magnitude :=
  ofRatio n 1

/-- The magnitude nearest to `digits` times a power of ten. Where the size of the number alone tells
that it is infinite or zero, no power is computed. -/
def ofDecimal (digits : Nat) (exponent : Int) : Magnitude :=
  -- two to the size is above the digits
  let size : Int := if digits = 0 then 0 else Nat.log2 digits + 1
  if digits = 0 then finite 0
  else if 1100 < size + 3 * exponent && 0 < exponent then infinite
  else if size + 3 * exponent < -1100 && exponent < 0 then finite 0
  else ofRatio (digits * Nat.pow 10 exponent.toNat) (Nat.pow 10 (-exponent).toNat)

/-- The rounded sum. -/
def add : Magnitude → Magnitude → Magnitude
  | finite a, finite b => ofUnits (a + b) 1
  | _, _ => infinite

/-- The rounded product; neither factor may be infinite when the other is zero. -/
def mul : Magnitude → Magnitude → Magnitude
  | finite a, finite b => ofUnits (a * b) (Nat.pow 2 scale)
  | _, _ => infinite

end Magnitude

end Telemetry
